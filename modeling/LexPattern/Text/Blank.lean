namespace LexPattern.Text

def isBlank (c : Char) : Bool :=
  let n := c.toNat
  (0x9 ≤ n && n ≤ 0xD) || n == 0x20 || n == 0x85 || n == 0xA0 || n == 0x1680
    || (0x2000 ≤ n && n ≤ 0x200A) || n == 0x2028 || n == 0x2029 || n == 0x202F || n == 0x205F
    || n == 0x3000

def fieldsFrom (field : List Char) : List Char → List (List Char)
  | [] => if field.isEmpty then [] else [field.reverse]
  | c :: cs =>
    if isBlank c then
      if field.isEmpty then fieldsFrom [] cs else field.reverse :: fieldsFrom [] cs
    else fieldsFrom (c :: field) cs

def fields (cs : List Char) : List (List Char) := fieldsFrom [] cs

end LexPattern.Text
