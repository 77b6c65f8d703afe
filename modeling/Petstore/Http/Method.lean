/-!
# Methods

A request method is a token: at least one character, none of them a separator. Methods differ by
case.
-/

namespace Petstore

/-- The characters of which tokens are made. -/
def isTokenChar (c : Char) : Bool :=
  c.isAlphanum || "!#$%&'*+-.^_`|~".toList.contains c

/-- At least one character, and token characters only. -/
def isToken (text : String) : Bool :=
  !text.toList.isEmpty && text.toList.all isTokenChar

/-- A request method. -/
structure Method where
  name : String
  isToken : isToken name = true
  deriving DecidableEq

namespace Method

/-- The method of a name that is a token. -/
def ofName? (name : String) : Option Method :=
  if h : Petstore.isToken name = true then some ⟨name, h⟩ else none

def get : Method := ⟨"GET", by decide⟩
def head : Method := ⟨"HEAD", by decide⟩
def post : Method := ⟨"POST", by decide⟩
def put : Method := ⟨"PUT", by decide⟩
def delete : Method := ⟨"DELETE", by decide⟩

end Method

end Petstore
