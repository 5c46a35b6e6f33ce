import DetectorSim.Text.Quoted

/-!
Texts for a terminal. The characters with which a text could take control of the
terminal are written by number: escape, bell, backspace, form feed and delete, and the
controls of eight bits.
-/

namespace DetectorSim.Text

/-- The written form of one character. -/
def harmlessChar (c : Char) : List Char :=
  if c = '\x07' || c = '\x08' || c = '\x0c' || c = '\x1b' || c = '\x7f' then
    ['\\', 'x'] ++ (if c.toNat < 16 then ['0'] else []) ++ hexDigits c.toNat
  else if 0x80 ≤ c.toNat && c.toNat ≤ 0x9f then
    ['\\', 'u', '\x7b'] ++ hexDigits c.toNat ++ ['\x7d']
  else [c]

/-- A text that leaves the terminal alone. -/
def harmless (s : String) : String :=
  String.ofList (s.toList.flatMap harmlessChar)

end DetectorSim.Text
