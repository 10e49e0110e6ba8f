import HostHealth.Text.Combining
import HostHealth.Text.Decimal
import HostHealth.Text.Invisible

/- Text and single characters between quotation marks, as the messages show them. What
   could not be seen, or would join the sign before it, is written by its code point. -/
namespace HostHealth.Text

def escapeCode (c : Char) : List Char :=
  ['\\', 'u', '\x7b'] ++ hexDigits c.toNat ++ ['\x7d']

/-- One character inside quotes of the kind `mark`; only that kind of quote is escaped. -/
def escapeChar (mark c : Char) : List Char :=
  if c = mark ∨ c = '\\' then ['\\', c]
  else if c = '\x00' then ['\\', '0']
  else if c = '\t' then ['\\', 't']
  else if c = '\r' then ['\\', 'r']
  else if c = '\n' then ['\\', 'n']
  else if ' ' ≤ c ∧ c ≤ '~' then [c]
  else if isCombining c || isInvisible c then escapeCode c
  else [c]

def quote (text : String) : String :=
  String.ofList ('"' :: text.toList.flatMap (escapeChar '"') ++ ['"'])

def quoteChar (c : Char) : String :=
  String.ofList ('\'' :: escapeChar '\'' c ++ ['\''])

end HostHealth.Text
