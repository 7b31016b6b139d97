import SequenceApi.Text.Caseless
import SequenceApi.Text.LowerCase

/-!
# Request methods

The seven methods of HTTP that a request may have. A diagram may write them in any case.

## Main definitions

* `Method`: the methods
* `Method.name`: the lower-case name, which is also the key of an operation in a document
* `Method.sendsBody`: the body of such a request is sent with it; otherwise it describes the answer
* `Method.ofWord?`: the method that a word of a diagram names
-/

namespace SequenceApi

/-- A request method. -/
inductive Method where
  | get
  | post
  | put
  | delete
  | patch
  | options
  | head
  deriving DecidableEq, Repr

namespace Method

/-- All methods. -/
def all : List Method :=
  [get, post, put, delete, patch, options, head]

/-- The name in lower case. -/
def name : Method → String
  | get => "get"
  | post => "post"
  | put => "put"
  | delete => "delete"
  | patch => "patch"
  | options => "options"
  | head => "head"

/-- The name in upper case. -/
def upperName (m : Method) : String :=
  Text.upper m.name

/-- The body of a request with this method is sent with the request. -/
def sendsBody : Method → Bool
  | post | put | patch => true
  | _ => false

/-- The method with a lower-case name. -/
def ofName? (s : String) : Option Method :=
  all.find? (·.name = s)

/-- The word is the name of a method when case is ignored. -/
def isWord (w : List Char) : Bool :=
  all.any fun m => Text.isKeyword m.name w

end Method

/-- A word that names a method when case is ignored, but whose lower case is no method's name. -/
structure UnknownMethod where
  word : String
  deriving DecidableEq, Repr

/-- The wording of the error. -/
def UnknownMethod.message (e : UnknownMethod) : String :=
  s!"'{e.word}' is not a valid HTTPMethod"

/-- The method that a word names in any case. Some words match a name only by case folding: they
are refused. -/
def Method.ofWord? (w : List Char) : Except UnknownMethod Method :=
  let lowered := String.ofList (Text.lower w)
  match ofName? lowered with
  | some m => .ok m
  | none => .error ⟨lowered⟩

end SequenceApi
