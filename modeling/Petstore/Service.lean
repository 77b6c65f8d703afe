import Petstore.Config.Settings
import Petstore.Http.App
import Petstore.Store.Controllers

/-!
# The service

The application as settings describe it, over the controllers that keep the store, and the state
that it starts from.
-/

namespace Petstore

/-- The application that settings describe, over any controllers. -/
def App.ofSettings (settings : Settings) (controllers : Controllers σ) : App σ where
  basePath := trimBase settings.api.basePath
  bodyLimit := settings.limits.maxBodyBytes
  router := serviceRouter
  controllers

/-- The service itself; `session` is the identity of sessions that are opened. -/
def Settings.service (settings : Settings) (session : String) : App Store :=
  .ofSettings settings (Store.controllers session)

/-- What the service starts from: nothing is stored, and the mounted routes are counted. -/
def serviceStart : App.State Store where
  store := {}
  metrics := { routesMounted := some serviceRouter.routes.length }

end Petstore
