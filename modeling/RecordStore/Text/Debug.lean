import RecordStore.Text.Combining
import RecordStore.Text.Invisible

/-!
# Text in messages

`quoteDebug` shows a text in a message so that every character of it can be told: between quotes,
with escapes for quotes, backslashes, and characters that are invisible or go with the one before.
-/

namespace RecordStore

def debugChar (c : Char) : List Char :=
  if c = '"' then ['\\', '"']
  else if c = '\\' then ['\\', '\\']
  else if c = '\n' then ['\\', 'n']
  else if c = '\r' then ['\\', 'r']
  else if c = '\t' then ['\\', 't']
  else if c = '\x00' then ['\\', '0']
  else if isCombining c || isInvisible c then
    '\\' :: 'u' :: '\x7b' :: Nat.toDigits 16 c.toNat ++ ['\x7d']
  else [c]

def quoteDebug (text : String) : String :=
  String.ofList ('"' :: text.toList.flatMap debugChar ++ ['"'])

end RecordStore
