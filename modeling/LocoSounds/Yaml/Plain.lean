import LocoSounds.Yaml.Spot

/-! Scalars without quotes. -/

namespace LocoSounds.Yaml

/-- The character cannot belong to a plain scalar where the given one follows it. -/
def endsPlain (inFlow : Bool) (c next : Char) : Bool :=
  isGap c || (c = ':' && (isGap next || (inFlow && ",[]\x7b\x7d".toList.contains next)))
    || (inFlow && ",?[]\x7b\x7d".toList.contains c)

/-- The characters of a plain scalar up to a gap or mark, and what follows them. -/
def plainWord (inFlow : Bool) : List Spot → List Char × List Spot
  | [] => ([], [])
  | spot :: rest =>
    if endsPlain inFlow spot.char (front rest) then ([], spot :: rest)
    else
      let (chars, after) := plainWord inFlow rest
      (spot.char :: chars, after)

/-- The breaks of empty lines at the front, and what follows them and the spaces of the next line.
Nothing is given where a mark between documents comes. -/
def plainBreaks (fuel : Nat) (rest : List Spot) : Option (List Char) × List Spot :=
  match fuel with
  | 0 => (some [], rest)
  | fuel + 1 =>
    let rest := dropChars (· = ' ') rest
    match splitBreak? rest with
    | none => (some [], rest)
    | some (c, rest) =>
      if atDocumentMark rest then (none, rest)
      else
        let (breaks, rest) := plainBreaks fuel rest
        (breaks.map (c :: ·), rest)

/-- What stands between two words of a plain scalar. -/
structure PlainGap where
  /-- The characters that stand for the gap. None are given where the scalar ends. -/
  chars : List Char
  /-- A line ended in the gap. -/
  broken : Bool
  rest : List Spot

/-- The gap at the front. A single line break is a space, and more of them count one less. -/
def plainGap (fuel : Nat) (rest : List Spot) : PlainGap :=
  let (spaces, rest) := spanChars (· = ' ') rest
  match splitBreak? rest with
  | none => ⟨spaces, false, rest⟩
  | some (lineBreak, rest) =>
    if atDocumentMark rest then ⟨[], true, rest⟩
    else
      match plainBreaks fuel rest with
      | (none, rest) => ⟨[], true, rest⟩
      | (some breaks, rest) =>
        let folded := if lineBreak ≠ '\n' then lineBreak :: breaks
          else if breaks.isEmpty then [' '] else breaks
        ⟨folded, true, rest⟩

/-- A plain scalar that was read. -/
structure PlainScalar where
  chars : List Char
  /-- The scalar was followed by the start of another line. -/
  broken : Bool
  rest : List Spot

/-- The words of a plain scalar from the front on, behind the gap before them. Outside of brackets
a scalar goes on only on lines that are indented deeper than its surroundings. -/
def plainWords (fuel : Nat) (inFlow : Bool) (indent : Int) (gap : List Char) (broken : Bool)
    (rest : List Spot) : PlainScalar :=
  match fuel with
  | 0 => ⟨[], broken, rest⟩
  | fuel + 1 =>
    if front rest = '#' then ⟨[], broken, rest⟩
    else
      let (word, after) := plainWord inFlow rest
      if word.isEmpty then ⟨[], broken, rest⟩
      else
        let next := plainGap fuel after
        if next.chars.isEmpty || front next.rest = '#'
            || (!inFlow && (column next.rest : Int) ≤ indent) then
          ⟨gap ++ word, next.broken, next.rest⟩
        else
          let more := plainWords fuel inFlow indent next.chars next.broken next.rest
          ⟨gap ++ word ++ more.chars, more.broken, more.rest⟩

/-- The plain scalar at the front of a text of at most the given size. -/
def plainScalar (size : Nat) (inFlow : Bool) (indent : Int) (rest : List Spot) : PlainScalar :=
  plainWords size inFlow indent [] false rest

/-- A plain scalar can start at the front. -/
def startsPlain (inFlow : Bool) (rest : List Spot) : Bool :=
  let c := front rest
  !(isGap c || "-?:,[]\x7b\x7d#&*!|>'\"%@\x60".toList.contains c)
    || (!isGap (peek rest 1) && (c = '-' || (!inFlow && (c = '?' || c = ':'))))

end LocoSounds.Yaml
