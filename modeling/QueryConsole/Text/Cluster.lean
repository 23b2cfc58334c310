import QueryConsole.Text.Cluster.Table

/-
User-perceived characters: text cut into the pieces that are typed, and taken back, as one.

The cut follows the rules for extended grapheme clusters: a `Role` for each character, and a machine (`Before`) that
remembers as much of what came before as the rules ask for. A break stands before a character unless a rule joins it to
what came before.

Results:
- `flatten_clusters`: cutting loses nothing.
-/

namespace QueryConsole

namespace Cluster

/-- what a character is to the rules -/
inductive Role where
  | carriageReturn | lineFeed | control | extending | joiner | regional | prepended | spacing
  | leading | vowel | trailing | leadingVowel | leadingVowelTrailing
  | pictograph | other
deriving DecidableEq, Repr

/-- the precomposed Korean syllables begin here; each 28th has no trailing consonant -/
def syllables : Nat := 0xAC00

/-- the role of a code point; one that no table names is `other` -/
def roleOfCode (code : Nat) : Role :=
  if code = 0x0D then .carriageReturn
  else if code = 0x0A then .lineFeed
  else if code = 0x200D then .joiner
  else if code < 0x7F then (if code < 0x20 then .control else .other)
  else if controls.holds code then .control
  else if extending.holds code then .extending
  else if 0x1F1E6 ≤ code ∧ code ≤ 0x1F1FF then .regional
  else if prepended.holds code then .prepended
  else if spacing.holds code then .spacing
  else if (0x1100 ≤ code ∧ code ≤ 0x115F) ∨ (0xA960 ≤ code ∧ code ≤ 0xA97C) then .leading
  else if (0x1160 ≤ code ∧ code ≤ 0x11A7) ∨ (0xD7B0 ≤ code ∧ code ≤ 0xD7C6) ∨ code = 0x16D63 ∨
    (0x16D67 ≤ code ∧ code ≤ 0x16D6A) then .vowel
  else if (0x11A8 ≤ code ∧ code ≤ 0x11FF) ∨ (0xD7CB ≤ code ∧ code ≤ 0xD7FB) then .trailing
  else if syllables ≤ code ∧ code ≤ 0xD7A3 then
    (if (code - syllables) % 28 = 0 then .leadingVowel else .leadingVowelTrailing)
  else if pictographs.holds code then .pictograph
  else .other

/-- how far a picture sequence has come -/
inductive Picture where
  | outside
  /-- a pictograph and marks on it -/
  | open
  /-- a joiner after that: a pictograph now would be joined -/
  | joining
deriving DecidableEq, Repr

/-- how far a consonant cluster has come -/
inductive Conjunct where
  | outside
  | consonant
  /-- a linker after a consonant: a consonant now would be joined -/
  | linked
deriving DecidableEq, Repr

/-- what the rules ask of the text before a character -/
structure Before where
  role : Role
  picture : Picture
  conjunct : Conjunct
  /-- an odd number of regional indicators ends here -/
  oddRegional : Bool
deriving DecidableEq, Repr

/-- what comes after one more character -/
def Before.next (before : Before) (code : Nat) : Before :=
  let role := roleOfCode code
  { role
    picture :=
      match role, before.picture with
      | .pictograph, _ => .open
      | .extending, .open => .open
      | .joiner, .open => .joining
      | _, _ => .outside
    conjunct :=
      if consonants.holds code then .consonant
      else
        match before.conjunct with
        | .outside => .outside
        | reached =>
          if linkers.holds code then .linked
          else if (role = .extending && code != 0x200C) || role = .joiner then reached
          else .outside
    oddRegional := role = .regional && !before.oddRegional }

/-- before the first character -/
def Before.start : Before := ⟨.control, .outside, .outside, false⟩

/-- the rules that join a character to what came before; the first that speaks about the two roles decides -/
def joins (before : Before) (code : Nat) : Bool :=
  match before.role, roleOfCode code with
  | .carriageReturn, .lineFeed => true
  | .carriageReturn, _ | .lineFeed, _ | .control, _ => false
  | _, .carriageReturn | _, .lineFeed | _, .control => false
  | .leading, .leading | .leading, .vowel | .leading, .leadingVowel | .leading, .leadingVowelTrailing => true
  | .leadingVowel, .vowel | .leadingVowel, .trailing | .vowel, .vowel | .vowel, .trailing => true
  | .leadingVowelTrailing, .trailing | .trailing, .trailing => true
  | _, .extending | _, .joiner | _, .spacing => true
  | .prepended, _ => true
  | _, .pictograph => before.picture = .joining
  | _, .regional => before.oddRegional
  | _, _ => before.conjunct = .linked && consonants.holds code

/-- cut the rest, with the clusters and the open cluster before it, both in reverse order -/
def clustersOn (done : List (List Char)) (current : List Char) (before : Before) : List Char → List (List Char)
  | [] => (current.reverse :: done).reverse
  | c :: rest =>
    if joins before c.toNat then clustersOn done (c :: current) (before.next c.toNat) rest
    else clustersOn (current.reverse :: done) [c] (before.next c.toNat) rest

/-- the clusters of a text -/
def clusters : List Char → List (List Char)
  | [] => []
  | c :: rest => clustersOn [] [c] (Before.start.next c.toNat) rest

theorem flatten_clustersOn (done : List (List Char)) (current : List Char) (before : Before) (text : List Char) :
    (clustersOn done current before text).flatten = done.reverse.flatten ++ current.reverse ++ text := by
  induction text generalizing done current before with
  | nil => simp [clustersOn]
  | cons c rest ih =>
    simp only [clustersOn]
    split <;> simp [ih]

theorem flatten_clusters (text : List Char) : (clusters text).flatten = text := by
  cases text <;> simp [clusters, flatten_clustersOn]

end Cluster

end QueryConsole
