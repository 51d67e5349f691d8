import ApiAtlas.Client.Assembly
import ApiAtlas.Client.Source
import ApiAtlas.Request.Params

/-!
# Sent fields

The fields that a generated operation sends when it runs. Its statements put the arguments into
fields, of which there are none at first, one statement after the other. An argument is looked up by
its name; an optional one may be absent, and one for a family is a map of texts by number. Integers
and numbers are of any size here.
-/

namespace ApiAtlas.Client

open Descriptor Lexical Request

inductive ArgumentType where
  | bool
  | int
  | text
  | numbered
  | option (type : ArgumentType)
  deriving DecidableEq, Repr

namespace ArgumentType

def ofValueType : ValueType → ArgumentType
  | .bool => .bool
  | .int => .int
  | .string => .text

def code : ArgumentType → List Layout.Doc
  | bool => Code.word "bool"
  | int => Code.word "i64"
  | text => Code.word "&str"
  | numbered => Code.word "&::std::collections::BTreeMap" ++
      Code.inAngles [Code.word "u32", Code.word "String"]
  | option type => Code.word "Option" ++ Code.inAngles [type.code]

end ArgumentType

def Argument.innerType (a : Argument) : ArgumentType :=
  if a.isFamily then .numbered else .ofValueType a.valueType

def Argument.type (a : Argument) : ArgumentType :=
  if a.isOptional then .option a.innerType else a.innerType

theorem Argument.code_type (a : Argument) : a.type.code = Code.argumentType a := by
  unfold Argument.type Argument.innerType Code.argumentType
  cases a.isFamily <;> cases a.isOptional <;> cases a.valueType <;> rfl

/-- Texts by number, sorted, with each number once. -/
structure NumberedTexts where
  entries : List (Nat × String)
  sorted : entries.Pairwise (·.1 < ·.1)

inductive Value where
  | bool (b : Bool)
  | int (n : Int)
  | text (s : String)
  | numbered (texts : NumberedTexts)
  | absent
  | present (value : Value)

inductive HasType : Value → ArgumentType → Prop
  | bool (b : Bool) : HasType (.bool b) .bool
  | int (n : Int) : HasType (.int n) .int
  | text (s : String) : HasType (.text s) .text
  | numbered (texts : NumberedTexts) : HasType (.numbered texts) .numbered
  | absent (type : ArgumentType) : HasType .absent (.option type)
  | present {value : Value} {type : ArgumentType} :
      HasType value type → HasType (.present value) (.option type)

namespace Value

/-- What a value sets a single field to, if it can. -/
def single? : Value → Option ParamValue
  | bool b => some (.bool b)
  | int n => some (.int n)
  | text s => some (.text s)
  | numbered _ => none
  | absent => some .absent
  | present value => value.single?

/-- The map that a value sets a family of fields to, if it can. -/
def family? : Value → Option (Option (List (Nat × String)))
  | absent => some none
  | present (numbered texts) => some (some texts.entries)
  | _ => none

end Value

inductive Expression where
  | name (argument : String)
  | some (expression : Expression)
  deriving DecidableEq, Repr

namespace Expression

def code : Expression → List Layout.Doc
  | name argument => Code.word argument
  | some expression => Code.word "Some" ++ Code.inParens [expression.code]

def value? (env : String → Option Value) : Expression → Option Value
  | name argument => env argument
  | some expression => (expression.value? env).map .present

end Expression

/-- A statement that puts a value into fields. -/
inductive FieldStatement where
  | set (wireName : String) (expression : Expression)
  | setIndexed (wireName : String) (expression : Expression)
  deriving DecidableEq, Repr

namespace FieldStatement

/-- The call of a function of the fields with a wire name and an expression. -/
def callCode (function wireName : String) (expression : Expression) : List Layout.Doc :=
  Code.statement (Code.chain (Code.word fieldsVariable)
    [Code.callLink function [Code.word (literal wireName), expression.code]])

def code : FieldStatement → List Layout.Doc
  | set wireName expression => callCode "set" wireName expression
  | setIndexed wireName expression => callCode "set_indexed" wireName expression

/-- The fields after a statement; none if its expression has no value that fits. -/
def run? (env : String → Option Value) (fields : Params) : FieldStatement → Option Params
  | set wireName expression => do
    let value ← (← expression.value? env).single?
    return fields.set wireName value
  | setIndexed wireName expression => do
    let texts ← (← expression.value? env).family?
    return fields.setIndexed wireName texts

/-- The fields after statements, of which there are none before. -/
def runAll? (env : String → Option Value) (statements : List FieldStatement) : Option Params :=
  statements.foldlM (run? env) {}

end FieldStatement

def Argument.statement (a : Argument) : FieldStatement :=
  if a.isFamily then
    .setIndexed a.wireName (if a.isOptional then .name a.name else .some (.name a.name))
  else .set a.wireName (.name a.name)

theorem Argument.code_statement (a : Argument) : a.statement.code = Code.setField a := by
  unfold Argument.statement Code.setField
  cases a.isFamily <;> cases a.isOptional <;> rfl

namespace Operation

def statements (o : Operation) : List FieldStatement := o.arguments.map Argument.statement

/-- The values of names where an operation runs. The local variable hides an argument of its
name. -/
def environment (o : Operation) (values : List Value) (name : String) : Option Value :=
  if name = fieldsVariable then none else ((o.arguments.map (·.name)).zip values).lookup name

/-- The fields that an operation sends for the values of its arguments. -/
def fields? (o : Operation) (values : List Value) : Option Params :=
  FieldStatement.runAll? (o.environment values) o.statements

end Operation

end ApiAtlas.Client
