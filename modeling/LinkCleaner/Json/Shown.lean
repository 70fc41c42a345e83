import LinkCleaner.Json.Basic
import LinkCleaner.Decimal.Shortest
import LinkCleaner.Text.Class

/-!
Values as shown in place of a name: a string as it is, all else in a literal form with quoted
strings, `None`, `True` and `False`.
-/

namespace LinkCleaner.Json.Value

def shownFloat (x : Decimal.Binary64) : Text :=
  match Decimal.finiteText? x, x with
  | some s, _ => s
  | none, .infinite true => "-inf".toList
  | none, .infinite false => "inf".toList
  | none, _ => "nan".toList

mutual

def literal : Value → Text
  | .null => "None".toList
  | .bool true => "True".toList
  | .bool false => "False".toList
  | .int n => Text.ofInt n
  | .float x => shownFloat x
  | .str s => Text.quoted (Str.toText s)
  | .arr [] => ['[', ']']
  | .arr (v :: vs) => '[' :: literal v ++ literals vs ++ [']']
  | .obj [] => ['\x7b', '\x7d']
  | .obj (f :: fs) => '\x7b' :: fieldLiteral f ++ fieldLiterals fs ++ ['\x7d']

def literals : List Value → Text
  | [] => []
  | v :: vs => ',' :: ' ' :: literal v ++ literals vs

def fieldLiteral : Str × Value → Text
  | (k, v) => Text.quoted (Str.toText k) ++ ':' :: ' ' :: literal v

def fieldLiterals : List (Str × Value) → Text
  | [] => []
  | f :: fs => ',' :: ' ' :: fieldLiteral f ++ fieldLiterals fs

end

def shown : Value → Text
  | .str s => Str.toText s
  | v => literal v

end LinkCleaner.Json.Value
