namespace ClientGen.Unicode

def isBlank (c : Char) : Bool :=
  let n := c.toNat
  (Nat.ble 0x9 n && Nat.ble n 0xd) || (Nat.ble 0x1c n && Nat.ble n 0x20) || n == 0x85 || n == 0xa0
    || n == 0x1680 || (Nat.ble 0x2000 n && Nat.ble n 0x200a) || n == 0x2028 || n == 0x2029
    || n == 0x202f || n == 0x205f || n == 0x3000

def isLineBreak (c : Char) : Bool :=
  let n := c.toNat
  (Nat.ble 0xa n && Nat.ble n 0xd) || (Nat.ble 0x1c n && Nat.ble n 0x1e) || n == 0x85
    || n == 0x2028 || n == 0x2029

end ClientGen.Unicode
