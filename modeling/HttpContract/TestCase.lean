import HttpContract.Method
import HttpContract.Headers.List

/-! Test cases: one request with the expectation that its response is judged by. -/
namespace HttpContract

abbrev StatusCode := Nat

inductive TestType where
  | statusCode | schema | performance | security
  deriving DecidableEq, Inhabited, Repr

def TestType.text : TestType → Text
  | .statusCode => "status_code"
  | .schema => "schema"
  | .performance => "performance"
  | .security => "security"

structure TestCase where
  name : Text
  method : Method
  path : Text
  expected : List StatusCode
  schema : Option Text
  testType : TestType
  headers : HeaderList
  body : Option Text
  deriving DecidableEq, Inhabited

namespace TestCase

def defaultStatus : StatusCode := 200

def new (name : Text) (method : Method) (path : Text) : TestCase :=
  { name, method, path, expected := [defaultStatus], schema := none, testType := .statusCode,
    headers := .empty, body := none }

/-- The distinct codes in the order of their first occurrence, or the default for none. -/
def expectation (codes : List StatusCode) : List StatusCode :=
  if codes = [] then [defaultStatus] else Text.distinct codes

def withExpected (test : TestCase) (codes : List StatusCode) : TestCase :=
  { test with expected := expectation codes }

/-- Gives the case a schema and has its response judged by it. -/
def withSchema (test : TestCase) (schema : Text) : TestCase :=
  { test with schema := some schema, testType := .schema }

def withHeader (test : TestCase) (name value : Text) : TestCase :=
  { test with headers := test.headers.insert name value }

def withBody (test : TestCase) (body : Text) : TestCase :=
  { test with body := some body }

/-- The code that reports show as the expected one. -/
def primaryStatus (test : TestCase) : StatusCode := test.expected.head?.getD defaultStatus

end TestCase
end HttpContract
