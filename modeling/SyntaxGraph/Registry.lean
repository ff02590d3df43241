import SyntaxGraph.Fault
import SyntaxGraph.Json.Table
import SyntaxGraph.Log
import SyntaxGraph.Text.Case

/-!
# The registry of front ends

A front end turns sources of one language into trees. The registry knows one front end for each
language and keeps one instance of it once it was asked for. Languages and file endings are values,
since settings name them and nobody checks what is registered.
-/
namespace SyntaxGraph

/-- A front end: its name, its language, and the file endings that it handles. -/
structure FrontEnd where
  name : String
  language : Json := .str "unknown"
  extensions : Json := .arr []
  /-- Whether it compiles Java; no other front end compiles anything. -/
  compilesJava : Bool := false
deriving DecidableEq

/-- An instance of a front end; instances are numbered in the order of their making. -/
structure Instance where
  number : Nat
  frontEnd : FrontEnd
deriving DecidableEq

def FrontEnd.java : FrontEnd where
  name := "JavaFrontend"
  language := .str "java"
  extensions := .arr [.str ".java"]
  compilesJava := true

def FrontEnd.base : FrontEnd where
  name := "BaseFrontend"

/-- The known front ends in the order of their registration, and the instances made so far. -/
structure Registry where
  frontEnds : Table FrontEnd := [(.str "java", .java)]
  instances : Table Instance := [(.str "java", ⟨0, .java⟩)]
  made : Nat := 1

namespace Registry

def logger : String := "astfeatures.frontend.registry"

def register (r : Registry) (frontEnd : FrontEnd) : Registry :=
  { r with
    frontEnds := r.frontEnds.put frontEnd.language frontEnd
    -- An instance of the front end before is given to nobody any more.
    instances := r.instances.drop frontEnd.language }

def registerLog (r : Registry) (frontEnd : FrontEnd) : List LogRecord :=
  let language := frontEnd.language.plain
  (match r.frontEnds.get? frontEnd.language with
    | some old => [.ofText .warning logger
        s!"Overwriting existing front-end for {language}: {old.name} -> {frontEnd.name}"]
    | none => []) ++
  [.ofText .debug logger s!"Registered front-end for {language}: {frontEnd.name}"]

def has (r : Registry) (language : Json) : Bool :=
  r.frontEnds.has language

def languages (r : Registry) : List Json :=
  r.frontEnds.map (·.1)

def get (r : Registry) (language : Json) : Except Report (Instance × Registry) :=
  match r.frontEnds.get? language with
  | none => .error (.unsupportedLanguage language)
  | some frontEnd =>
    -- An instance is made when it is first asked for.
    match r.instances.get? language with
    | some found => .ok (found, r)
    | none =>
      let new : Instance := ⟨r.made, frontEnd⟩
      .ok (new, { r with instances := r.instances.put language new, made := r.made + 1 })

def unregister (r : Registry) (language : Json) : Registry :=
  { r with
    frontEnds := r.frontEnds.drop language
    instances := r.instances.drop language }

/-- The first language whose front end handles a file ending. The endings of every front end that
is asked have to be something that can hold a text. -/
def languageForExtension? (r : Registry) (extension : String) : Except Fault (Option Json) :=
  firstHandling r.frontEnds
where
  /-- The first language in a table whose front end handles the ending. -/
  firstHandling : Table FrontEnd → Except Fault (Option Json)
    | [] => .ok none
    | (language, frontEnd) :: rest =>
      match frontEnd.extensions.holds? (Text.lower extension) with
      | some true => .ok (some language)
      | some false => firstHandling rest
      | none => .error .wrongForm

end Registry

end SyntaxGraph
