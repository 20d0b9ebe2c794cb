namespace OperationTree.Json

def hexDigit (n : Nat) : Char := (Nat.toDigits 16 n).head?.getD '0'

def escape (c : Char) : List Char :=
  if c = '"' then ['\\', '"']
  else if c = '\\' then ['\\', '\\']
  else if c = '\n' then ['\\', 'n']
  else if c = '\r' then ['\\', 'r']
  else if c = '\t' then ['\\', 't']
  else if c = '\x08' then ['\\', 'b']
  else if c = '\x0c' then ['\\', 'f']
  else if c.toNat < 0x20 then
    ['\\', 'u', '0', '0', hexDigit (c.toNat / 16), hexDigit (c.toNat % 16)]
  else [c]

def writeText (text : String) : List Char :=
  '"' :: text.toList.flatMap escape ++ ['"']

def writeMember (key : String) (value : List Char) : List Char :=
  writeText key ++ ':' :: value

def writeObject (members : List (List Char)) : List Char :=
  '{' :: [','].intercalate members ++ ['}']

def writeArray (items : List (List Char)) : List Char :=
  '[' :: [','].intercalate items ++ [']']

end OperationTree.Json
