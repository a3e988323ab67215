import Canopy.Text.Ranges
import Canopy.Text.CaseTable

namespace Canopy.Text

def smallLetter (c : Char) : Char :=
  let n := c.toNat
  match smallLetters.find? fun (first, last, stride, _) =>
      first ≤ n && n ≤ last && (n - first) % stride == 0 with
  | some (_, _, _, way) => Char.ofNat (n + way).toNat
  | none => c

def isCaseIgnorable (c : Char) : Bool := inRanges caseIgnorableRanges c

def isCased (c : Char) : Bool := inRanges casedRanges c

/-- Whether the nearest character that matters for case is a letter with one. -/
def meetsCased (cs : List Char) : Bool :=
  match cs.dropWhile isCaseIgnorable with
  | [] => false
  | c :: _ => isCased c

/-- Small letters of a text, given what stands before it, nearest character first. A capital sigma
at the end of a word becomes the final sigma; the dotted capital I keeps its dot as a mark. -/
def lowerFrom : List Char → List Char → List Char
  | _, [] => []
  | before, c :: rest =>
    let small :=
      if c.toNat = 0x3A3 then
        [Char.ofNat (if meetsCased before && !meetsCased rest then 0x3C2 else 0x3C3)]
      else if c.toNat = 0x130 then ['i', Char.ofNat 0x307]
      else [smallLetter c]
    small ++ lowerFrom (c :: before) rest

def lower (s : String) : String := String.ofList (lowerFrom [] s.toList)

end Canopy.Text
