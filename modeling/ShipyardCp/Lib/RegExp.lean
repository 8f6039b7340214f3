import ShipyardCp.Lib.CodeUnits

/-! Regular expressions of JavaScript without flags: their syntax trees, and where they match among the
code units of a text. -/

namespace ShipyardCp.Lib.RegExp

open JsText

/-- A set of code units: a union of sets of ranges, each as it is or complemented, or its complement. -/
structure UnitSet where
  negated : Bool
  parts : List (Bool × List (Nat × Nat))

def UnitSet.has (set : UnitSet) (u : Nat) : Bool :=
  set.negated != set.parts.any fun part => part.1 != part.2.any fun r => r.1 ≤ u && u ≤ r.2

def UnitSet.single (u : Nat) : UnitSet := ⟨false, [(false, [(u, u)])]⟩

def digitRanges : List (Nat × Nat) := [(0x30, 0x39)]

def wordRanges : List (Nat × Nat) := [(0x30, 0x39), (0x41, 0x5A), (0x5F, 0x5F), (0x61, 0x7A)]

def spaceRanges : List (Nat × Nat) :=
  [(0x09, 0x0D), (0x20, 0x20), (0xA0, 0xA0), (0x1680, 0x1680), (0x2000, 0x200A), (0x2028, 0x2029),
    (0x202F, 0x202F), (0x205F, 0x205F), (0x3000, 0x3000), (0xFEFF, 0xFEFF)]

def terminatorRanges : List (Nat × Nat) := [(0x0A, 0x0A), (0x0D, 0x0D), (0x2028, 0x2029)]

/-- What a dot matches: all but line terminators. -/
def dot : UnitSet := ⟨true, [(false, terminatorRanges)]⟩

inductive Node where
  | empty
  | unit (set : UnitSet)
  | seq (first rest : Node)
  | alt (first rest : Node)
  | group (index : Nat) (body : Node)
  | backreference (index : Nat)
  /-- `first` and `last` bound the groups inside, which each round forgets. -/
  | repeated (body : Node) (min : Nat) (max : Option Nat) (greedy : Bool) (first last : Nat)
  | start
  | finish
  | boundary (negated : Bool)
  | look (ahead negated : Bool) (body : Node)

/-- A place in a text, with the units before it backwards, and what the groups have captured. -/
structure Place where
  before : CodeUnits
  after : CodeUnits
  captured : List (Nat × CodeUnits)

namespace Place

/-- The next unit in the direction of the match, and the place past it. -/
def advance (forward : Bool) (place : Place) : Option (Nat × Place) :=
  if forward then
    match place.after with
    | [] => none
    | u :: after => some (u, { place with before := u :: place.before, after := after })
  else
    match place.before with
    | [] => none
    | u :: before => some (u, { place with before := before, after := u :: place.after })

/-- The text between a place and one reached from it. -/
def upTo (forward : Bool) (place next : Place) : CodeUnits :=
  if forward then place.after.take (place.after.length - next.after.length)
  else next.after.take (next.after.length - place.after.length)

def capture (place : Place) (index : Nat) (text : CodeUnits) : Place :=
  { place with captured := (index, text) :: place.captured }

/-- Forgets what the groups after `first` up to `last` captured. -/
def forget (place : Place) (first last : Nat) : Place :=
  { place with captured := place.captured.filter fun c => !(first < c.1 && c.1 ≤ last) }

/-- Past a text that is to follow in the direction of the match. -/
def follow (forward : Bool) (place : Place) (text : CodeUnits) : Option Place :=
  if forward then
    if text <+: place.after then
      some { place with
        before := text.reverse ++ place.before, after := place.after.drop text.length }
    else none
  else
    if text.reverse <+: place.before then
      some { place with before := place.before.drop text.length, after := text ++ place.after }
    else none

end Place

/-- The places that rounds of a match lead to, best first. A round past the least number that stays at
its place is no match; `fuel` bounds the rounds. -/
def rounds (round : Place → List Place) (greedy : Bool) : Nat → Nat → Option Nat → Place → List Place
  | 0, _, _, _ => []
  | fuel + 1, min, max, place =>
    if max = some 0 then [place]
    else
      let more := (round place).flatMap fun next =>
        if min = 0 && next.after.length = place.after.length then []
        else rounds round greedy fuel (min - 1) (max.map (· - 1)) next
      if min ≠ 0 then more
      else if greedy then more ++ [place]
      else place :: more

/-- All places where a match can end, best first. -/
def ends : Bool → Node → Place → List Place
  | _, .empty, place => [place]
  | forward, .unit set, place =>
    match place.advance forward with
    | none => []
    | some (u, next) => if set.has u then [next] else []
  | forward, .seq first rest, place =>
    if forward then (ends forward first place).flatMap (ends forward rest)
    else (ends forward rest place).flatMap (ends forward first)
  | forward, .alt first rest, place => ends forward first place ++ ends forward rest place
  | forward, .group index body, place =>
    (ends forward body place).map fun next => next.capture index (place.upTo forward next)
  | forward, .backreference index, place =>
    match place.captured.lookup index with
    | none => [place]
    | some text => (place.follow forward text).toList
  | forward, .repeated body min max greedy first last, place =>
    rounds (fun place => ends forward body (place.forget first last)) greedy
      (min + place.before.length + place.after.length + 1) min max place
  | _, .start, place => if place.before = [] then [place] else []
  | _, .finish, place => if place.after = [] then [place] else []
  | _, .boundary negated, place =>
    let isWord := fun u : Nat => wordRanges.any fun r => r.1 ≤ u && u ≤ r.2
    if (place.before.head?.any isWord != place.after.head?.any isWord) != negated then [place] else []
  | _, .look ahead negated body, place =>
    match ends ahead body place with
    | [] => if negated then [place] else []
    | next :: _ => if negated then [] else [{ place with captured := next.captured }]

/-- Whether the node matches somewhere from here on. -/
def occursFrom (node : Node) (before : CodeUnits) : CodeUnits → Bool
  | [] => !(ends true node ⟨before, [], []⟩).isEmpty
  | u :: after => !(ends true node ⟨before, u :: after, []⟩).isEmpty ||
    occursFrom node (u :: before) after

/-! The source texts of regular expressions of JavaScript, with what browsers accept beyond the standard
grammar: a closing bracket or a brace that stands for itself, octal escapes, and escapes of any letter. -/

def isDigit (u : Nat) : Bool := 0x30 ≤ u && u ≤ 0x39

def isOctal (u : Nat) : Bool := 0x30 ≤ u && u ≤ 0x37

def isLetter (u : Nat) : Bool := (0x41 ≤ u && u ≤ 0x5A) || (0x61 ≤ u && u ≤ 0x7A)

/-- The names of groups may have any unit that is not ASCII. -/
def isNameUnit (u : Nat) : Bool := isLetter u || isDigit u || u = 0x24 || u = 0x5F || 0x80 ≤ u

def hexValue? (u : Nat) : Option Nat :=
  if isDigit u then some (u - 0x30)
  else if 0x41 ≤ u && u ≤ 0x46 then some (u - 0x37)
  else if 0x61 ≤ u && u ≤ 0x66 then some (u - 0x57)
  else none

def hexValues? (us : List Nat) : Option Nat :=
  (us.mapM hexValue?).map fun values => values.foldl (fun value d => 16 * value + d) 0

def decimalValue (us : List Nat) : Nat := us.foldl (fun value u => 10 * value + (u - 0x30)) 0

/-- `{n}`, `{n,}` or `{n,m}` at the head of a source. -/
def bracedQuantifier? (source : List Nat) : Option ((Nat × Option Nat) × List Nat) :=
  let least := source.tail.takeWhile isDigit
  let rest := source.tail.dropWhile isDigit
  if source.head? = some 0x7B && least ≠ [] then
    if rest.head? = some 0x7D then
      some ((decimalValue least, some (decimalValue least)), rest.tail)
    else
      let most := rest.tail.takeWhile isDigit
      let rest' := rest.tail.dropWhile isDigit
      if rest.head? = some 0x2C && rest'.head? = some 0x7D then
        some ((decimalValue least, if most = [] then none else some (decimalValue most)), rest'.tail)
      else none
  else none

def quantifier? : List Nat → Option ((Nat × Option Nat) × List Nat)
  | 0x2A :: source => some ((0, none), source)
  | 0x2B :: source => some ((1, none), source)
  | 0x3F :: source => some ((0, some 1), source)
  | source => bracedQuantifier? source

/-- An atom with the quantifier that follows it, if one does; `none` is a quantifier whose numbers are
out of order. -/
def quantified (atom : Node) (first last : Nat) (source : List Nat) : Option (Node × List Nat) :=
  match quantifier? source with
  | none => some (atom, source)
  | some ((min, max), source) =>
    if max.any (· < min) then none
    else match source with
      | 0x3F :: source => some (.repeated atom min max false first last, source)
      | source => some (.repeated atom min max true first last, source)

/-- The names of the capturing groups of a source, `none` for a group without one. -/
def groupNames (inClass : Bool) : List Nat → List (Option (List Nat))
  | [] => []
  | u :: source =>
    if u = 0x5C then
      match source with
      | [] => []
      | _ :: source => groupNames inClass source
    else if u = 0x5B then groupNames true source
    else if u = 0x5D then groupNames false source
    else if u = 0x28 && !inClass then
      match source with
      | 0x3F :: 0x3C :: v :: _ =>
        if v = 0x3D || v = 0x21 then groupNames inClass source
        else some ((source.drop 2).takeWhile isNameUnit) :: groupNames inClass source
      | 0x3F :: _ => groupNames inClass source
      | _ => none :: groupNames inClass source
    else groupNames inClass source

/-- The sets that `\d`, `\D`, `\s`, `\S`, `\w` and `\W` stand for. -/
def escapedSet? (u : Nat) : Option (Bool × List (Nat × Nat)) :=
  if u = 0x64 then some (false, digitRanges)
  else if u = 0x44 then some (true, digitRanges)
  else if u = 0x73 then some (false, spaceRanges)
  else if u = 0x53 then some (true, spaceRanges)
  else if u = 0x77 then some (false, wordRanges)
  else if u = 0x57 then some (true, wordRanges)
  else none

/-- The unit that an escape of `u` stands for; a digit begins an octal number of at most `\377`, and a
letter without a meaning stands for itself. -/
def escapedUnit (u : Nat) (source : List Nat) : Nat × List Nat :=
  if u = 0x66 then (0x0C, source)
  else if u = 0x6E then (0x0A, source)
  else if u = 0x72 then (0x0D, source)
  else if u = 0x74 then (0x09, source)
  else if u = 0x76 then (0x0B, source)
  else if u = 0x78 && (source.take 2).length = 2 && (hexValues? (source.take 2)).isSome then
    ((hexValues? (source.take 2)).getD 0, source.drop 2)
  else if u = 0x75 && (source.take 4).length = 4 && (hexValues? (source.take 4)).isSome then
    ((hexValues? (source.take 4)).getD 0, source.drop 4)
  else if isOctal u then
    let more := (source.take (if u ≤ 0x33 then 2 else 1)).takeWhile isOctal
    ((u :: more).foldl (fun value d => 8 * value + (d - 0x30)) 0, source.drop more.length)
  else (u, source)

/-- One member of a class, or one end of a range. -/
def classAtom (hasNames : Bool) : List Nat → Option ((Nat ⊕ (Bool × List (Nat × Nat))) × List Nat)
  | [] => none
  | 0x5C :: source =>
    match source with
    | [] => none
    | u :: rest =>
      if u = 0x62 then some (.inl 0x08, rest)
      else if u = 0x6B && hasNames then none
      else if u = 0x63 then
        match rest with
        | v :: rest' =>
          if isLetter v || isDigit v || v = 0x5F then some (.inl (v % 32), rest')
          else some (.inl 0x5C, source)
        | [] => some (.inl 0x5C, source)
      else match escapedSet? u with
        | some set => some (.inr set, rest)
        | none =>
          let (v, rest) := escapedUnit u rest
          some (.inl v, rest)
  | u :: source => some (.inl u, source)

def classPart : Nat ⊕ (Bool × List (Nat × Nat)) → Bool × List (Nat × Nat)
  | .inl u => (false, [(u, u)])
  | .inr set => set

/-- The members of a class up to its closing bracket. -/
def classParts (hasNames : Bool) : Nat → List Nat → Option (List (Bool × List (Nat × Nat)) × List Nat)
  | 0, _ => none
  | _, [] => none
  | fuel + 1, source =>
    if source.head? = some 0x5D then some ([], source.tail)
    else do
      let (lower, source) ← classAtom hasNames source
      match source with
      | 0x2D :: v :: source =>
        if v = 0x5D then
          let (parts, source) ← classParts hasNames fuel (0x2D :: v :: source)
          pure (classPart lower :: parts, source)
        else
          let (upper, source) ← classAtom hasNames (v :: source)
          let (parts, source) ← classParts hasNames fuel source
          match lower, upper with
          | .inl lo, .inl hi => if hi < lo then none else pure ((false, [(lo, hi)]) :: parts, source)
          | _, _ => pure (classPart lower :: (false, [(0x2D, 0x2D)]) :: classPart upper :: parts, source)
      | source =>
        let (parts, source) ← classParts hasNames fuel source
        pure (classPart lower :: parts, source)

/-- What follows a backslash that begins an atom. -/
def escapedAtom (names : List (Option (List Nat))) : List Nat → Option (Node × List Nat)
  | [] => none
  | u :: source =>
    let digits := (u :: source).takeWhile isDigit
    if isDigit u && u ≠ 0x30 && decimalValue digits ≤ names.length then
      some (.backreference (decimalValue digits), (u :: source).drop digits.length)
    else if u = 0x6B && names.any Option.isSome then
      match source with
      | 0x3C :: source =>
        let name := source.takeWhile isNameUnit
        if some name ∈ names && (source.drop name.length).head? = some 0x3E then
          some (.backreference (names.idxOf (some name) + 1), source.drop (name.length + 1))
        else none
      | _ => none
    else if u = 0x63 then
      match source with
      | v :: rest =>
        if isLetter v then some (.unit (.single (v % 32)), rest)
        else some (.unit (.single 0x5C), u :: source)
      | [] => some (.unit (.single 0x5C), u :: source)
    else match escapedSet? u with
      | some set => some (.unit ⟨false, [set]⟩, source)
      | none =>
        let (v, source) := escapedUnit u source
        some (.unit (.single v), source)

/-- An atom that is no group. -/
def simpleAtom (names : List (Option (List Nat))) (source : List Nat) : Option (Node × List Nat) :=
  match source with
  | [] => none
  | u :: rest =>
    if u = 0x2E then some (.unit dot, rest)
    else if u = 0x5C then escapedAtom names rest
    else if u = 0x5B then
      let negated := rest.head? = some 0x5E
      (classParts (names.any Option.isSome) (rest.length + 1)
        (if negated then rest.tail else rest)).map fun p => (.unit ⟨negated, p.1⟩, p.2)
    else if u = 0x2A || u = 0x2B || u = 0x3F || (bracedQuantifier? source).isSome then none
    else some (.unit (.single u), rest)

/-- Past the bracket that closes a group. -/
def closed : List Nat → Option (List Nat)
  | 0x29 :: source => some source
  | _ => none

mutual

/-- The parsers return what they read, the number of groups that begin before what follows, and that. -/
def disjunction (names : List (Option (List Nat))) :
    Nat → Nat → List Nat → Option (Node × Nat × List Nat)
  | 0, _, _ => none
  | fuel + 1, opened, source => do
    let (first, opened, source) ← alternative names fuel opened source
    match source with
    | 0x7C :: source =>
      let (rest, opened, source) ← disjunction names fuel opened source
      pure (.alt first rest, opened, source)
    | source => pure (first, opened, source)

def alternative (names : List (Option (List Nat))) :
    Nat → Nat → List Nat → Option (Node × Nat × List Nat)
  | 0, _, _ => none
  | fuel + 1, opened, source =>
    if source = [] || source.head? = some 0x7C || source.head? = some 0x29 then
      some (.empty, opened, source)
    else do
      let (first, opened, source) ← term names fuel opened source
      let (rest, opened, source) ← alternative names fuel opened source
      pure (.seq first rest, opened, source)

def term (names : List (Option (List Nat))) : Nat → Nat → List Nat → Option (Node × Nat × List Nat)
  | 0, _, _ => none
  | fuel + 1, opened, source =>
    match source with
    | 0x5E :: source => some (.start, opened, source)
    | 0x24 :: source => some (.finish, opened, source)
    | 0x5C :: 0x62 :: source => some (.boundary false, opened, source)
    | 0x5C :: 0x42 :: source => some (.boundary true, opened, source)
    | 0x28 :: 0x3F :: 0x3A :: source => do
      let (body, last, source) ← disjunction names fuel opened source
      let source ← closed source
      let (node, source) ← quantified body opened last source
      pure (node, last, source)
    | 0x28 :: 0x3F :: 0x3D :: source => do
      let (body, last, source) ← disjunction names fuel opened source
      let source ← closed source
      let (node, source) ← quantified (.look true false body) opened last source
      pure (node, last, source)
    | 0x28 :: 0x3F :: 0x21 :: source => do
      let (body, last, source) ← disjunction names fuel opened source
      let source ← closed source
      let (node, source) ← quantified (.look true true body) opened last source
      pure (node, last, source)
    | 0x28 :: 0x3F :: 0x3C :: 0x3D :: source => do
      let (body, last, source) ← disjunction names fuel opened source
      let source ← closed source
      pure (.look false false body, last, source)
    | 0x28 :: 0x3F :: 0x3C :: 0x21 :: source => do
      let (body, last, source) ← disjunction names fuel opened source
      let source ← closed source
      pure (.look false true body, last, source)
    | 0x28 :: 0x3F :: 0x3C :: source => do
      let name := source.takeWhile isNameUnit
      if name = [] || name.head?.any isDigit || (source.drop name.length).head? ≠ some 0x3E then none
      else
        let (body, last, source) ←
          disjunction names fuel (opened + 1) (source.drop (name.length + 1))
        let source ← closed source
        let (node, source) ← quantified (.group (opened + 1) body) opened last source
        pure (node, last, source)
    | 0x28 :: 0x3F :: _ => none
    | 0x28 :: source => do
      let (body, last, source) ← disjunction names fuel (opened + 1) source
      let source ← closed source
      let (node, source) ← quantified (.group (opened + 1) body) opened last source
      pure (node, last, source)
    | source => do
      let (atom, source) ← simpleAtom names source
      let (node, source) ← quantified atom opened opened source
      pure (node, opened, source)

end

/-- `new RegExp(source)`; `none` is a syntax error. -/
def compile (source : List Nat) : Option Node :=
  let names := groupNames false source
  if (names.filterMap id).Nodup then
    match disjunction names (4 * source.length + 4) 0 source with
    | some (node, _, []) => some node
    | _ => none
  else none

/-- `new RegExp(source).test(text)` -/
def test (source text : String) : Option Bool :=
  (compile (units source)).map fun node => occursFrom node [] (units text)

end ShipyardCp.Lib.RegExp
