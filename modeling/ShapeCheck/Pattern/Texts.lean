import ShapeCheck.Pattern.Form
import ShapeCheck.Text.Encoding

namespace ShapeCheck.Pattern.Form

/-- At most so many texts are listed, of at most so many bytes, from sets of at most so many
characters and so many rounds of a repetition. -/
def textLimit : Nat := 250

def textBytesLimit : Nat := 100

def setLimit : Nat := 10

def roundLimit : Nat := 10

mutual

def isPlain : Form → Bool
  | .anchor _ | .capture _ _ => false
  | .times f _ _ _ => f.isPlain
  | .row fs | .choice fs => areAllPlain fs
  | _ => true

def areAllPlain : List Form → Bool
  | [] => true
  | f :: fs => f.isPlain && areAllPlain fs

end

def listed? (texts : List (List Nat)) : Option (List (List Nat)) :=
  if texts.length ≤ textLimit ∧ texts.all (·.length ≤ textBytesLimit) then some texts else none

def textsOfSet? (s : CharSet) : Option (List (List Nat)) :=
  if (s.ranges.map fun (low, high) => high + 1 - low).foldr (· + ·) 0 ≤ setLimit then
    some (s.ranges.flatMap fun (low, high) =>
      (List.range' low (high + 1 - low)).map Text.encode)
  else none

def before? (texts : List (List Nat)) (others : Option (List (List Nat))) :
    Option (List (List Nat)) :=
  if texts.isEmpty then some []
  else do
    let others ← others
    if textLimit < texts.length * others.length then none
    else listed? (texts.flatMap fun a => others.map (a ++ ·))

mutual

def texts? : Form → Option (List (List Nat))
  | .empty | .anchor _ => some [[]]
  | .word cs => listed? [cs.flatMap fun c => Text.encode c.toNat]
  | .set s => textsOfSet? s
  | .capture _ f => f.texts?
  | .row fs => textsOfRow? fs [[]]
  | .choice fs => textsOfChoice? fs []
  | .times f least most _ => do
    let texts ← f.texts?
    match least, most with
    | 0, some 1 => listed? (texts ++ [[]])
    | 0, _ => if texts.isEmpty then some [[]] else none
    | least, most =>
      if texts.isEmpty then some []
      else if most = some least ∧ least ≤ roundLimit then
        (List.replicate least texts).foldlM (fun done texts => before? done (some texts)) [[]]
      else none

def textsOfRow? : List Form → List (List Nat) → Option (List (List Nat))
  | [], done => some done
  | f :: fs, done => do textsOfRow? fs (← before? done f.texts?)

def textsOfChoice? : List Form → List (List Nat) → Option (List (List Nat))
  | [], done => some done
  | f :: fs, done => do textsOfChoice? fs (← listed? (done ++ (← f.texts?)))

end

def isList (f : Form) : Bool :=
  f.isPlain && f.texts?.any fun texts => !texts.isEmpty && texts.all (!·.isEmpty)

end ShapeCheck.Pattern.Form
