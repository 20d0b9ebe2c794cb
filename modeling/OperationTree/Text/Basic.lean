namespace OperationTree.Text

/-- The ranges are closed, and in ascending order. -/
def inRanges (ranges : List (Nat × Nat)) (c : Char) : Bool :=
  ranges.any fun (first, last) => first ≤ c.toNat && c.toNat ≤ last

def blankRanges : List (Nat × Nat) :=
  [(0x9, 0xd), (0x20, 0x20), (0x85, 0x85), (0xa0, 0xa0), (0x1680, 0x1680), (0x2000, 0x200a),
    (0x2028, 0x2029), (0x202f, 0x202f), (0x205f, 0x205f), (0x3000, 0x3000)]

def isBlank (c : Char) : Bool := inRanges blankRanges c

def dropBlankEnd (chars : List Char) : List Char :=
  (chars.reverse.dropWhile isBlank).reverse

def byteCount : List Char → Nat
  | [] => 0
  | c :: rest => c.utf8Size + byteCount rest

def integer64? (text : String) : Option Int64 :=
  let (negative, digits) :=
    match text.toList with
    | '-' :: rest => (true, rest)
    | '+' :: rest => (false, rest)
    | chars => (false, chars)
  if digits.isEmpty ∨ !digits.all Char.isDigit then none
  else
    let size := digits.foldl (fun n c => n * 10 + (c.toNat - '0'.toNat)) 0
    if negative then
      if Int64.minValue.toInt ≤ -size then some (Int64.ofInt (-size)) else none
    else if size ≤ Int64.maxValue.toInt then some (Int64.ofInt size) else none

end OperationTree.Text
