import RequestSuite.Request.Basic
import RequestSuite.Template.Resolve

/-!
# Variables in requests

The method, the addresses, the values of headers and parameters, the body and the expected values
of tests are templates.  Names, keys and captures are not.
-/

namespace RequestSuite

/-- The values of entries, with the templates in them filled in. -/
def resolveEntries (lookup : Lookup) (entries : List (String × Value)) : List (String × Value) :=
  entries.map fun e => (e.1, e.2.resolve lookup)

/-- Tests with the templates in the expected values filled in. -/
def TestSection.resolve (lookup : Lookup) (t : TestSection) : TestSection :=
  { status := t.status.map (Value.resolve lookup)
    body := t.body.map (Value.resolve lookup)
    headers := resolveEntries lookup t.headers
    json := resolveEntries lookup t.json }

/-- The expected values of tests, in the order in which they are filled in. -/
def TestSection.templates (t : TestSection) : List Value :=
  t.status.toList ++ t.body.toList ++ t.headers.map (·.2) ++ t.json.map (·.2)

namespace Request

/-- A request with all templates filled in. -/
def resolve (lookup : Lookup) (r : Request) : Request :=
  { r with
    method := Template.resolveText lookup r.method
    baseUrl := r.baseUrl.map (Template.resolveText lookup)
    url := Template.resolveText lookup r.url
    headers := resolveEntries lookup r.headers
    params := r.params.map fun p => { p with value := p.value.resolve lookup }
    body := r.body.map (Value.resolve lookup)
    tests := r.tests.resolve lookup }

/-- All templates of a request, in the order in which they are filled in. -/
def templates (r : Request) : List Value :=
  .string r.method :: (r.baseUrl.map .string).toList ++ .string r.url ::
    r.headers.map (·.2) ++ r.params.map (·.value) ++ r.body.toList ++ r.tests.templates

/-- The names in a request for which there is no variable, each once, in the order in which they
are met. -/
def undefinedNames (lookup : Lookup) (r : Request) : List String :=
  distinct ((r.templates.flatMap Value.templateNames).filter fun name => (lookup name).isNone)

/-- The notice about names without variables, if there are any. -/
def undefinedNotices (names : List String) : List Notice :=
  if names.isEmpty then [] else [.undefinedVariables names]

end Request

end RequestSuite
