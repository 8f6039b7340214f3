import ShipyardCp.Lib.CodeUnits
import ShipyardCp.Lib.Json

/-! `JSON.stringify` over lists of characters: with a list of property names it writes these members
only, in the order of the list and at every depth. A text determines the value that is written. -/

namespace ShipyardCp.Lib

/-- Characters of numbers in JSON. -/
def isNumberMark (c : Char) : Bool := c.isDigit || c = '-' || c = '+' || c = '.' || c = 'e'

/-- A finite number, kept as the text that `String(n)` gives; negative zero is zero. -/
structure NumberText where
  text : List Char
  nonempty : text ≠ []
  marks : ∀ c ∈ text, isNumberMark c = true
  deriving DecidableEq

/-- Values that JSON can write. An object has its members in their order. -/
inductive JsonValue where
  | null
  | bool (b : Bool)
  | num (n : NumberText)
  | str (s : String)
  | arr (items : List JsonValue)
  | obj (members : List (String × JsonValue))

namespace JsonValue

theorem induction {P : JsonValue → Prop} (null : P .null) (bool : ∀ b, P (.bool b))
    (num : ∀ n, P (.num n)) (str : ∀ s, P (.str s))
    (arr : ∀ items, (∀ v ∈ items, P v) → P (.arr items))
    (obj : ∀ members : List (String × JsonValue), (∀ m ∈ members, P m.2) → P (.obj members)) :
    ∀ v, P v :=
  @JsonValue.rec P (fun items => ∀ v ∈ items, P v) (fun members => ∀ m ∈ members, P m.2)
    (fun m => P m.2) null bool num str arr obj nofun
    (fun _ _ hhead htail => List.forall_mem_cons.mpr ⟨hhead, htail⟩) nofun
    (fun _ _ hhead htail => List.forall_mem_cons.mpr ⟨hhead, htail⟩) fun _ _ h => h

mutual

/-- No object in the value has two members of one name. -/
def distinctNames : JsonValue → Bool
  | .arr items => distinctItems items
  | .obj members => (members.map Prod.fst).Nodup && distinctMembers members
  | _ => true

def distinctItems : List JsonValue → Bool
  | [] => true
  | item :: items => distinctNames item && distinctItems items

def distinctMembers : List (String × JsonValue) → Bool
  | [] => true
  | (_, value) :: members => distinctNames value && distinctMembers members

end

/-- A character of a string literal. -/
def quoteChar (c : Char) : List Char :=
  if c = '"' then ['\\', '"']
  else if c = '\\' then ['\\', '\\']
  else if c.toNat = 0x08 then ['\\', 'b']
  else if c.toNat = 0x0C then ['\\', 'f']
  else if c.toNat = 0x0A then ['\\', 'n']
  else if c.toNat = 0x0D then ['\\', 'r']
  else if c.toNat = 0x09 then ['\\', 't']
  else if c.toNat < 0x20 then
    ['\\', 'u', '0', '0', Nat.digitChar (c.toNat / 16), Nat.digitChar (c.toNat % 16)]
  else [c]

def quote (s : String) : List Char := '"' :: (s.toList.flatMap quoteChar ++ ['"'])

/-- A name and the text of its value. -/
def memberText (m : String × List Char) : List Char := quote m.1 ++ ':' :: m.2

def commas (texts : List (List Char)) : List Char := List.intercalate [','] texts

mutual

/-- `JSON.stringify(value)` -/
def stringify : JsonValue → List Char
  | .null => "null".toList
  | .bool b => if b then "true".toList else "false".toList
  | .num n => n.text
  | .str s => quote s
  | .arr items => '[' :: (commas (stringifyItems items) ++ [']'])
  | .obj members => '{' :: (commas ((stringifyMembers members).map memberText) ++ ['}'])

def stringifyItems : List JsonValue → List (List Char)
  | [] => []
  | item :: items => stringify item :: stringifyItems items

def stringifyMembers : List (String × JsonValue) → List (String × List Char)
  | [] => []
  | (key, value) :: members => (key, stringify value) :: stringifyMembers members

end

mutual

/-- `JSON.stringify(value, names)` -/
def stringifyWith (names : List String) : JsonValue → List Char
  | .null => "null".toList
  | .bool b => if b then "true".toList else "false".toList
  | .num n => n.text
  | .str s => quote s
  | .arr items => '[' :: (commas (stringifyWithItems names items) ++ [']'])
  | .obj members =>
    let texts := stringifyWithMembers names members
    '{' :: (commas ((names.filterMap fun name =>
      (texts.lookup name).map fun text => (name, text)).map memberText) ++ ['}'])

def stringifyWithItems (names : List String) : List JsonValue → List (List Char)
  | [] => []
  | item :: items => stringifyWith names item :: stringifyWithItems names items

def stringifyWithMembers (names : List String) : List (String × JsonValue) → List (String × List Char)
  | [] => []
  | (key, value) :: members => (key, stringifyWith names value) :: stringifyWithMembers names members

end

/-- Texts on lines of their own between brackets, each behind `indent` and two spaces. -/
def indentedBlock (indent : List Char) (opening closing : Char) (texts : List (List Char)) :
    List Char :=
  if texts = [] then [opening, closing]
  else opening :: '\n' :: ' ' :: ' ' :: (indent ++
    ((',' :: '\n' :: ' ' :: ' ' :: indent).intercalate texts ++ '\n' :: (indent ++ [closing])))

mutual

/-- `JSON.stringify(value, null, 2)` -/
def stringifyIndented (indent : List Char) : JsonValue → List Char
  | .arr items => indentedBlock indent '[' ']' (stringifyIndentedItems (' ' :: ' ' :: indent) items)
  | .obj members =>
    indentedBlock indent '{' '}' (stringifyIndentedMembers (' ' :: ' ' :: indent) members)
  | v => stringify v

def stringifyIndentedItems (indent : List Char) : List JsonValue → List (List Char)
  | [] => []
  | item :: items => stringifyIndented indent item :: stringifyIndentedItems indent items

def stringifyIndentedMembers (indent : List Char) : List (String × JsonValue) → List (List Char)
  | [] => []
  | (key, value) :: members =>
    (quote key ++ ':' :: ' ' :: stringifyIndented indent value) ::
      stringifyIndentedMembers indent members

end

theorem stringifyItems_eq (items : List JsonValue) : stringifyItems items = items.map stringify := by
  induction items with
  | nil => rfl
  | cons item items ih => rw [stringifyItems, ih, List.map_cons]

theorem stringifyMembers_eq (members : List (String × JsonValue)) :
    stringifyMembers members = members.map fun m => (m.1, stringify m.2) := by
  induction members with
  | nil => rfl
  | cons m members ih => rw [stringifyMembers, ih, List.map_cons]

theorem stringifyWithItems_eq (names : List String) (items : List JsonValue) :
    stringifyWithItems names items = items.map (stringifyWith names) := by
  induction items with
  | nil => rfl
  | cons item items ih => rw [stringifyWithItems, ih, List.map_cons]

theorem stringifyWithMembers_eq (names : List String) (members : List (String × JsonValue)) :
    stringifyWithMembers names members = members.map fun m => (m.1, stringifyWith names m.2) := by
  induction members with
  | nil => rfl
  | cons m members ih => rw [stringifyWithMembers, ih, List.map_cons]

section strings

open Json

variable {c : Char} {s s' : String} {rest rest' : List Char}

theorem stringUnits_escape {e : Char} {u : Nat} (he : escape? e = some u) (text : List Char) :
    stringUnits ('\\' :: e :: text) = (stringUnits text).map fun p => (u :: p.1, p.2) := by
  have hne : e ≠ 'u' := by
    rintro rfl
    cases he
  rw [stringUnits]
  · rw [he]
    cases stringUnits text <;> rfl
  · rintro a b c d rest heq
    exact absurd heq hne

theorem stringUnits_control {n : Nat} (hn : n < 0x20) (text : List Char) :
    stringUnits ('\\' :: 'u' :: '0' :: '0' :: Nat.digitChar (n / 16) :: Nat.digitChar (n % 16) ::
      text) = (stringUnits text).map fun p => (n :: p.1, p.2) := by
  have hhex : ∀ n < 0x20,
      hex4? '0' '0' (Nat.digitChar (n / 16)) (Nat.digitChar (n % 16)) = some n := by
    decide
  rw [stringUnits, hhex n hn]
  cases stringUnits text <;> rfl

theorem stringUnits_plain (hquote : c ≠ '"') (hslash : c ≠ '\\') (hc : ¬c.toNat < 0x20)
    (text : List Char) : stringUnits (c :: text) =
      (stringUnits text).map fun p => (JsText.codeUnits c ++ p.1, p.2) := by
  rw [stringUnits]
  · rw [if_neg hc]
    cases stringUnits text <;> rfl
  · exact hquote
  · rintro _ _ _ _ _ h _
    exact hslash h
  · rintro _ _ h _
    exact hslash h

theorem stringUnits_quoteChar (c : Char) (text : List Char) : stringUnits (quoteChar c ++ text) =
      (stringUnits text).map fun p => (JsText.codeUnits c ++ p.1, p.2) := by
  have hunits : c.toNat < 0x20 → JsText.codeUnits c = [c.toNat] := fun hc =>
    if_pos (hc.trans (by decide))
  unfold quoteChar
  split_ifs with hquote hslash hb hf hn hr ht hcontrol
  · subst hquote
    exact stringUnits_escape rfl text
  · subst hslash
    exact stringUnits_escape rfl text
  · rw [hunits (by omega), hb]
    exact stringUnits_escape rfl text
  · rw [hunits (by omega), hf]
    exact stringUnits_escape rfl text
  · rw [hunits (by omega), hn]
    exact stringUnits_escape rfl text
  · rw [hunits (by omega), hr]
    exact stringUnits_escape rfl text
  · rw [hunits (by omega), ht]
    exact stringUnits_escape rfl text
  · rw [hunits hcontrol]
    exact stringUnits_control hcontrol text
  · exact stringUnits_plain hquote hslash hcontrol text

theorem stringUnits_quoted (text rest : List Char) :
    stringUnits (text.flatMap quoteChar ++ '"' :: rest) = some (JsText.charCodes text, rest) := by
  induction text with
  | nil => rfl
  | cons c text ih =>
    rw [List.flatMap_cons, List.append_assoc, stringUnits_quoteChar, ih]
    rfl

theorem quote_inj (h : quote s ++ rest = quote s' ++ rest') : s = s' ∧ rest = rest' := by
  have hread : ∀ (s : String) (rest : List Char),
      stringUnits (quote s ++ rest).tail = some (JsText.charCodes s.toList, rest) := by
    intro s rest
    rw [quote, List.cons_append, List.tail_cons, List.append_assoc, List.singleton_append,
      stringUnits_quoted]
  have hsame := hread s rest
  rw [h, hread] at hsame
  obtain ⟨hs, hrest⟩ := Prod.mk.inj (Option.some.inj hsame)
  exact ⟨String.toList_inj.mp (JsText.charCodes_injective hs.symm), hrest.symm⟩

end strings

section texts

/-- What follows a value does not go on with a number. -/
def Ends (rest : List Char) : Prop := ∀ c ∈ rest.head?, isNumberMark c = false

/-- A value of these texts can be told off from what follows. -/
def Separable {A : Type} (text : A → List Char) (a : A) : Prop :=
  ∀ a' rest rest', Ends rest → Ends rest' → text a ++ rest = text a' ++ rest' → a = a' ∧ rest = rest'

theorem ends_cons {c : Char} (hc : isNumberMark c = false) (rest : List Char) : Ends (c :: rest) := by
  rintro d hd
  rw [← Option.some.inj hd]
  exact hc

theorem commas_cons_append (text : List Char) (texts : List (List Char)) (rest : List Char) :
    commas (text :: texts) ++ rest =
      text ++ (if texts = [] then rest else ',' :: (commas texts ++ rest)) := by
  unfold commas
  split_ifs with htexts
  · rw [htexts, List.intercalate_singleton]
  · rw [List.intercalate_cons_of_ne_nil htexts, List.append_assoc, List.append_assoc,
      List.singleton_append]

theorem commas_inj {A : Type} {text : A → List Char} {close : Char}
    (hclose : isNumberMark close = false) (hcomma : close ≠ ',')
    (hfirst : ∀ a rest, (text a ++ rest).head? ≠ some close) {l l' : List A}
    {rest rest' : List Char} (hl : ∀ a ∈ l, Separable text a)
    (h : commas (l.map text) ++ close :: rest = commas (l'.map text) ++ close :: rest') :
    l = l' ∧ rest = rest' := by
  have hnil : ∀ (a : A) (l : List A) (rest rest' : List Char),
      commas (([] : List A).map text) ++ close :: rest ≠
        commas ((a :: l).map text) ++ close :: rest' := by
    intro a l rest rest' heq
    rw [List.map_cons, commas_cons_append] at heq
    exact hfirst a _ ((congrArg List.head? heq).symm)
  have hends : ∀ (l : List A) (rest : List Char), Ends
      (if l.map text = [] then close :: rest else ',' :: (commas (l.map text) ++ close :: rest)) := by
    intro l rest
    split_ifs
    · exact ends_cons hclose rest
    · exact ends_cons rfl _
  induction l generalizing l' with
  | nil =>
    cases l' with
    | nil => exact ⟨rfl, (List.cons.inj h).2⟩
    | cons a' l' => exact absurd h (hnil a' l' rest rest')
  | cons a l ih =>
    cases l' with
    | nil => exact absurd h.symm (hnil a l rest' rest)
    | cons a' l' =>
      rw [List.forall_mem_cons] at hl
      rw [List.map_cons, List.map_cons, commas_cons_append, commas_cons_append] at h
      obtain ⟨rfl, htail⟩ := hl.1 a' _ _ (hends l rest) (hends l' rest') h
      cases l with
      | nil =>
        cases l' with
        | nil => exact ⟨rfl, (List.cons.inj htail).2⟩
        | cons b' l' => exact absurd (List.cons.inj htail).1 hcomma
      | cons b l =>
        cases l' with
        | nil => exact absurd (List.cons.inj htail).1.symm hcomma
        | cons b' l' =>
          obtain ⟨hl', hrest⟩ := ih hl.2 (List.cons.inj htail).2
          exact ⟨congrArg (a :: ·) hl', hrest⟩

/-- The character that a value begins with; `0` for numbers. -/
def opening : JsonValue → Char
  | .null => 'n'
  | .bool b => if b then 't' else 'f'
  | .num _ => '0'
  | .str _ => '"'
  | .arr _ => '['
  | .obj _ => '{'

theorem head?_stringify (v : JsonValue) (rest : List Char) : ∃ c,
    (stringify v ++ rest).head? = some c ∧ (if isNumberMark c then '0' else c) = opening v := by
  cases v with
  | null => exact ⟨'n', rfl, rfl⟩
  | bool b => cases b with
    | false => exact ⟨'f', rfl, rfl⟩
    | true => exact ⟨'t', rfl, rfl⟩
  | num n =>
    obtain ⟨c, text, htext⟩ := List.exists_cons_of_ne_nil n.nonempty
    have hmark : isNumberMark c = true := n.marks c (by rw [htext]; exact List.mem_cons_self)
    refine ⟨c, ?_, if_pos hmark⟩
    rw [stringify, htext]
    rfl
  | str s => exact ⟨'"', rfl, rfl⟩
  | arr items => exact ⟨'[', rfl, rfl⟩
  | obj members => exact ⟨'{', rfl, rfl⟩

theorem opening_eq {v v' : JsonValue} {rest rest' : List Char}
    (h : stringify v ++ rest = stringify v' ++ rest') : opening v = opening v' := by
  obtain ⟨c, hc, hopening⟩ := head?_stringify v rest
  obtain ⟨c', hc', hopening'⟩ := head?_stringify v' rest'
  rw [h, hc'] at hc
  rw [← hopening, ← hopening', Option.some.inj hc]

theorem numberText_inj {n n' : NumberText} {rest rest' : List Char} (hrest : Ends rest)
    (hrest' : Ends rest') (h : n.text ++ rest = n'.text ++ rest') : n = n' ∧ rest = rest' := by
  have htake : ∀ (n : NumberText) (rest : List Char), Ends rest →
      (n.text ++ rest).takeWhile isNumberMark = n.text := by
    intro n rest hends
    rw [List.takeWhile_append_of_pos n.marks]
    cases rest with
    | nil => exact List.append_nil _
    | cons c rest =>
      rw [List.takeWhile_cons_of_neg (by simp [hends c rfl]), List.append_nil]
  have htext : n.text = n'.text := by
    rw [← htake n rest hrest, h, htake n' rest' hrest']
  refine ⟨?_, List.append_cancel_left (htext ▸ h)⟩
  cases n
  cases n'
  cases htext
  rfl

theorem form_of_opening_eq {v v' : JsonValue} (h : opening v = opening v') : match v with
    | .null => v' = .null
    | .bool b => v' = .bool b
    | .num _ => ∃ n, v' = .num n
    | .str _ => ∃ s, v' = .str s
    | .arr _ => ∃ items, v' = .arr items
    | .obj _ => ∃ members, v' = .obj members := by
  rcases v with _ | (_ | _) | _ | _ | _ | _ <;> rcases v' with _ | (_ | _) | _ | _ | _ | _ <;>
    first | exact rfl | exact ⟨_, rfl⟩ | simp [opening] at h

theorem separable_stringify (v : JsonValue) : Separable stringify v := by
  induction v using induction with
  | null =>
    intro v' rest rest' _ _ h
    obtain rfl : v' = .null := form_of_opening_eq (opening_eq h)
    exact ⟨rfl, List.append_cancel_left h⟩
  | bool b =>
    intro v' rest rest' _ _ h
    obtain rfl : v' = .bool b := form_of_opening_eq (opening_eq h)
    exact ⟨rfl, List.append_cancel_left h⟩
  | num n =>
    intro v' rest rest' hrest hrest' h
    obtain ⟨n', rfl⟩ := form_of_opening_eq (opening_eq h)
    obtain ⟨rfl, hsame⟩ := numberText_inj hrest hrest' h
    exact ⟨rfl, hsame⟩
  | str s =>
    intro v' rest rest' _ _ h
    obtain ⟨s', rfl⟩ := form_of_opening_eq (opening_eq h)
    obtain ⟨rfl, hsame⟩ := quote_inj h
    exact ⟨rfl, hsame⟩
  | arr items ih =>
    intro v' rest rest' _ _ h
    obtain ⟨items', rfl⟩ := form_of_opening_eq (opening_eq h)
    have hinner : commas (items.map stringify) ++ ']' :: rest =
        commas (items'.map stringify) ++ ']' :: rest' := by
      simpa [stringify, stringifyItems_eq] using h
    have hfirst : ∀ (v : JsonValue) (rest : List Char), (stringify v ++ rest).head? ≠ some ']' := by
      intro v rest hhead
      obtain ⟨c, hc, hopening⟩ := head?_stringify v rest
      obtain rfl := Option.some.inj (hc.symm.trans hhead)
      rcases v with _ | (_ | _) | _ | _ | _ | _ <;> simp [opening, isNumberMark] at hopening
    obtain ⟨rfl, hsame⟩ := commas_inj rfl (by decide) hfirst ih hinner
    exact ⟨rfl, hsame⟩
  | obj members ih =>
    intro v' rest rest' _ _ h
    obtain ⟨members', rfl⟩ := form_of_opening_eq (opening_eq h)
    let text := fun m : String × JsonValue => memberText (m.1, stringify m.2)
    have hinner : commas (members.map text) ++ '}' :: rest =
        commas (members'.map text) ++ '}' :: rest' := by
      simpa [stringify, stringifyMembers_eq, Function.comp_def] using h
    have hfirst : ∀ (m : String × JsonValue) (rest : List Char), (text m ++ rest).head? ≠ some '}' :=
      fun m rest hhead => absurd (Option.some.inj hhead) (by decide)
    have hmembers : ∀ m ∈ members, Separable text m := by
      intro m hm m' rest rest' hrest hrest' heq
      simp only [text, memberText, List.append_assoc] at heq
      obtain ⟨hkey, hvalue⟩ := quote_inj heq
      obtain ⟨hsame, hrests⟩ := ih m hm m'.2 rest rest' hrest hrest' (List.cons.inj hvalue).2
      exact ⟨Prod.ext hkey hsame, hrests⟩
    obtain ⟨rfl, hsame⟩ := commas_inj rfl (by decide) hfirst hmembers hinner
    exact ⟨rfl, hsame⟩

theorem stringify_injective : Function.Injective stringify := by
  intro v v' h
  exact (separable_stringify v v' [] [] nofun nofun (by rw [h])).1

end texts

section scanning

/-- Where in a JSON text a character is: `escaped` comes after a backslash in a string. -/
inductive Quoting where
  | outside | inside | escaped
  deriving DecidableEq

/-- Strings of the text are closed, and outside of them it has no spaces and no backslashes. -/
def scan : Quoting → List Char → Bool
  | q, [] => q = .outside
  | .outside, c :: text =>
    if c = '"' then scan .inside text else c ≠ ' ' && c ≠ '\\' && scan .outside text
  | .inside, c :: text =>
    if c = '"' then scan .outside text
    else if c = '\\' then scan .escaped text else scan .inside text
  | .escaped, _ :: text => scan .inside text

def Balanced (text : List Char) : Prop := ∀ rest, scan .outside (text ++ rest) = scan .outside rest

variable {text more : List Char}

theorem Balanced.append (htext : Balanced text) (hmore : Balanced more) :
    Balanced (text ++ more) := by
  intro rest
  rw [List.append_assoc, htext, hmore]

theorem balanced_of_plain (h : ∀ c ∈ text, c ≠ '"' ∧ c ≠ ' ' ∧ c ≠ '\\') : Balanced text := by
  intro rest
  induction text with
  | nil => rfl
  | cons c text ih =>
    rw [List.forall_mem_cons] at h
    obtain ⟨⟨hquote, hspace, hslash⟩, htext⟩ := h
    rw [List.cons_append, scan, if_neg hquote, ih htext]
    simp [hspace, hslash]

theorem scan_inside_quoteChar (c : Char) (text : List Char) :
    scan .inside (quoteChar c ++ text) = scan .inside text := by
  unfold quoteChar
  split_ifs with hquote hslash hb hf hn hr ht hcontrol
  · rfl
  · rfl
  · rfl
  · rfl
  · rfl
  · rfl
  · rfl
  · simp [scan]
  · simp [scan, hquote, hslash]

theorem balanced_quote (s : String) : Balanced (quote s) := by
  intro rest
  have hinside : ∀ text : List Char, scan .inside (text.flatMap quoteChar ++ '"' :: rest) =
      scan .outside rest := by
    intro text
    induction text with
    | nil => rfl
    | cons c text ih => rw [List.flatMap_cons, List.append_assoc, scan_inside_quoteChar, ih]
  rw [quote, List.cons_append, List.append_assoc]
  exact hinside s.toList

theorem balanced_commas {texts : List (List Char)} (h : ∀ text ∈ texts, Balanced text) :
    Balanced (commas texts) := by
  induction texts with
  | nil => exact fun _ => rfl
  | cons text texts ih =>
    rw [List.forall_mem_cons] at h
    intro rest
    rw [commas_cons_append, h.1]
    split_ifs
    · rfl
    · exact ih h.2 rest

theorem balanced_stringify (v : JsonValue) : Balanced (stringify v) := by
  have hwithin : ∀ {a b : Char} {text : List Char}, Balanced [a] → Balanced [b] → Balanced text →
      Balanced (a :: (text ++ [b])) := fun ha hb htext => ha.append (htext.append hb)
  induction v using induction with
  | null => exact fun _ => rfl
  | bool b => cases b <;> exact fun _ => rfl
  | num n =>
    refine balanced_of_plain fun c hc => ?_
    have hmark := n.marks c hc
    refine ⟨?_, ?_, ?_⟩ <;> rintro rfl <;> cases hmark
  | str s => exact balanced_quote s
  | arr items ih =>
    rw [stringify, stringifyItems_eq]
    refine hwithin (fun _ => rfl) (fun _ => rfl) (balanced_commas ?_)
    simpa using ih
  | obj members ih =>
    rw [stringify, stringifyMembers_eq]
    refine hwithin (fun _ => rfl) (fun _ => rfl) (balanced_commas ?_)
    simp only [List.map_map, List.forall_mem_map]
    intro m hm
    have hcolon : Balanced [':'] := fun _ => rfl
    exact (balanced_quote m.1).append (hcolon.append (ih m hm))

theorem scan_inside_of_space {q : Quoting} {before : List Char}
    (h : scan q (before ++ ' ' :: text) = true) : scan .inside text = true := by
  induction before generalizing q with
  | nil =>
    cases q with
    | outside => simp [scan] at h
    | inside => exact h
    | escaped => exact h
  | cons c before ih =>
    cases q with
    | outside =>
      rw [List.cons_append, scan] at h
      split_ifs at h
      · exact ih h
      · exact ih (Bool.and_eq_true_iff.mp h).2
    | inside =>
      rw [List.cons_append, scan] at h
      split_ifs at h <;> exact ih h
    | escaped => exact ih h

theorem scan_outside_of_inside (h : scan .inside text = true) : scan .outside text = false := by
  induction text with
  | nil => cases h
  | cons c text ih =>
    rw [scan] at h
    rw [scan]
    split_ifs at h ⊢ with hquote hslash
    · exact Bool.eq_false_iff.mpr fun hinside => absurd (ih hinside) (by simp [h])
    · simp [hslash]
    · simp [ih h]

/-- A value written behind a name, a colon and a space can be told off from the name. -/
theorem named_stringify_inj {name name' : List Char} {v v' : JsonValue}
    (h : name ++ ':' :: ' ' :: stringify v = name' ++ ':' :: ' ' :: stringify v') :
    name = name' ∧ v = v' := by
  have hfree : ∀ (name : List Char) (v : JsonValue) (c : List Char), c ≠ [] → c <:+ name →
      ¬∃ w, c ++ ':' :: ' ' :: stringify v = ':' :: ' ' :: stringify w := by
    rintro name v c hc - ⟨w, hw⟩
    have hscan : ∀ v, scan .outside (stringify v) = true := by
      intro v
      have hend := balanced_stringify v []
      rwa [List.append_nil] at hend
    -- the colon and the space lie within the value `w`
    rcases c with _ | ⟨_, _ | ⟨_, c⟩⟩
    · exact hc rfl
    · cases (List.cons.inj (List.cons.inj hw).2).1
    · have hvalue : c ++ ':' :: ' ' :: stringify v = stringify w :=
        (List.cons.inj (List.cons.inj hw).2).2
      have hwhole : scan .outside ((c ++ [':']) ++ ' ' :: stringify v) = true := by
        rw [List.append_assoc, List.singleton_append, hvalue, hscan]
      have hinside := scan_outside_of_inside (scan_inside_of_space hwhole)
      rw [hscan] at hinside
      cases hinside
  obtain ⟨hname, hvalue⟩ := append_inj_of_opens (fun text => ∃ w, text = ':' :: ' ' :: stringify w)
    (hfree name v) (hfree name' v') ⟨v, rfl⟩ ⟨v', rfl⟩ h
  exact ⟨hname, stringify_injective (List.cons.inj (List.cons.inj hvalue).2).2⟩

end scanning

section names

mutual

/-- The value with the members of the given names only, in their order and at every depth. -/
def restrict (names : List String) : JsonValue → JsonValue
  | .arr items => .arr (restrictItems names items)
  | .obj members =>
    .obj (names.filterMap fun name =>
      ((restrictMembers names members).lookup name).map fun value => (name, value))
  | v => v

def restrictItems (names : List String) : List JsonValue → List JsonValue
  | [] => []
  | item :: items => restrict names item :: restrictItems names items

def restrictMembers (names : List String) : List (String × JsonValue) → List (String × JsonValue)
  | [] => []
  | (key, value) :: members => (key, restrict names value) :: restrictMembers names members

end

variable {names : List String} {v v' : JsonValue}

theorem restrictItems_eq (names : List String) (items : List JsonValue) :
    restrictItems names items = items.map (restrict names) := by
  induction items with
  | nil => rfl
  | cons item items ih => rw [restrictItems, ih, List.map_cons]

theorem restrictMembers_eq (names : List String) (members : List (String × JsonValue)) :
    restrictMembers names members = members.map fun m => (m.1, restrict names m.2) := by
  induction members with
  | nil => rfl
  | cons m members ih => rw [restrictMembers, ih, List.map_cons]

theorem lookup_map_snd {A B : Type} (f : A → B) (l : List (String × A)) (name : String) :
    (l.map fun m => (m.1, f m.2)).lookup name = (l.lookup name).map f := by
  induction l with
  | nil => rfl
  | cons m l ih =>
    rw [List.map_cons, List.lookup_cons, List.lookup_cons]
    cases name == m.1 with
    | false => exact ih
    | true => rfl

/-- What a value looks like when it is written with names is what is left of it by the names. -/
theorem stringifyWith_eq (names : List String) (v : JsonValue) :
    stringifyWith names v = stringify (restrict names v) := by
  induction v using induction with
  | null => rfl
  | bool b => rfl
  | num n => rfl
  | str s => rfl
  | arr items ih =>
    rw [stringifyWith, restrict, stringify, stringifyWithItems_eq, restrictItems_eq,
      stringifyItems_eq, List.map_map, List.map_congr_left ih]
    rfl
  | obj members ih =>
    have hlookup : ∀ name, (members.map fun m => (m.1, stringify (restrict names m.2))).lookup name =
        (members.lookup name).map fun w => stringify (restrict names w) :=
      lookup_map_snd (fun w => stringify (restrict names w)) members
    rw [stringifyWith, restrict, stringify, stringifyWithMembers_eq, restrictMembers_eq,
      stringifyMembers_eq, List.map_congr_left fun m hm => congrArg (Prod.mk m.1) (ih m hm)]
    simp only [hlookup, lookup_map_snd, List.map_filterMap, Option.map_map, Function.comp_def]

/-- A member or an item of a value. -/
inductive Step where
  | key (name : String)
  | index (i : Nat)

def child? : JsonValue → Step → Option JsonValue
  | .obj members, .key name => members.lookup name
  | .arr items, .index i => items[i]?
  | _, _ => none

def at? (v : JsonValue) : List Step → Option JsonValue
  | [] => some v
  | step :: path => (v.child? step).bind (at? · path)

/-- What a value is, without the values within it. -/
inductive Field where
  | null
  | bool (b : Bool)
  | num (n : NumberText)
  | str (s : String)
  | arr (length : Nat)
  | obj
  deriving DecidableEq

def field : JsonValue → Field
  | .null => .null
  | .bool b => .bool b
  | .num n => .num n
  | .str s => .str s
  | .arr items => .arr items.length
  | .obj _ => .obj

/-- The field at a path, if there is one. -/
def fieldAt (v : JsonValue) (path : List Step) : Option Field := (v.at? path).map field

/-- The path leads through members of these names only. -/
def Within (names : List String) (path : List Step) : Prop := ∀ name, .key name ∈ path → name ∈ names

theorem lookup_filterMap {A : Type} (f : String → Option A) (name : String) :
    (names.filterMap fun name => (f name).map fun a => (name, a)).lookup name =
      if name ∈ names then f name else none := by
  induction names with
  | nil => rfl
  | cons first names ih =>
    rw [List.filterMap_cons]
    by_cases hname : name = first
    · subst hname
      rw [if_pos List.mem_cons_self]
      cases hf : f name with
      | none =>
        rw [Option.map_none, ih, hf, ite_self]
      | some a => rw [Option.map_some, List.lookup_cons, beq_self_eq_true]
    · have hmem : name ∈ first :: names ↔ name ∈ names := by simp [hname]
      simp only [hmem]
      cases f first with
      | none => exact ih
      | some a =>
        rw [Option.map_some, List.lookup_cons, beq_false_of_ne hname]
        exact ih

theorem child?_restrict {step : Step} (hstep : ∀ name, step = .key name → name ∈ names) :
    (restrict names v).child? step = (v.child? step).map (restrict names) := by
  cases v with
  | obj members =>
    cases step with
    | key name =>
      rw [restrict, child?, child?, restrictMembers_eq, lookup_filterMap, if_pos (hstep name rfl),
        lookup_map_snd]
    | index i => rfl
  | arr items =>
    cases step with
    | key name => rfl
    | index i => rw [restrict, child?, child?, restrictItems_eq, List.getElem?_map]
  | null | bool | num | str => rfl

theorem fieldAt_cons (v : JsonValue) (step : Step) (path : List Step) :
    v.fieldAt (step :: path) = (v.child? step).bind fun w => w.fieldAt path := by
  rw [fieldAt, at?, Option.map_bind]
  rfl

theorem field_restrict (names : List String) (v : JsonValue) : field (restrict names v) = field v := by
  cases v with
  | arr items => rw [restrict, field, field, restrictItems_eq, List.length_map]
  | null | bool | num | str | obj => rfl

theorem fieldAt_restrict {path : List Step} (hpath : Within names path) :
    (restrict names v).fieldAt path = v.fieldAt path := by
  induction path generalizing v with
  | nil => exact congrArg some (field_restrict names v)
  | cons step path ih =>
    have hstep : ∀ name, step = .key name → name ∈ names := fun name h =>
      hpath name (h ▸ List.mem_cons_self)
    have hrest : Within names path := fun name h => hpath name (List.mem_cons_of_mem step h)
    rw [fieldAt_cons, fieldAt_cons, child?_restrict hstep]
    cases v.child? step with
    | none => rfl
    | some w => exact ih hrest

/-- The values agree along the names. -/
def AgreeWithin (names : List String) (v v' : JsonValue) : Prop :=
  ∀ path, Within names path → v.fieldAt path = v'.fieldAt path

theorem AgreeWithin.field_eq (h : AgreeWithin names v v') : field v = field v' :=
  Option.some.inj (h [] nofun)

theorem AgreeWithin.child? (h : AgreeWithin names v v') (step : Step)
    (hstep : ∀ name, step = .key name → name ∈ names) :
    v.child? step = none ∧ v'.child? step = none ∨
      ∃ w w', v.child? step = some w ∧ v'.child? step = some w' ∧ AgreeWithin names w w' := by
  have hrest : ∀ path, Within names path → ((v.child? step).bind fun w => w.fieldAt path) =
        (v'.child? step).bind fun w => w.fieldAt path := by
    intro path hpath
    rw [← fieldAt_cons, ← fieldAt_cons]
    refine h (step :: path) fun name hname => ?_
    rcases List.mem_cons.mp hname with hname | hname
    · exact hstep name hname.symm
    · exact hpath name hname
  cases hv : v.child? step with
  | none =>
    cases hv' : v'.child? step with
    | none => exact .inl ⟨rfl, rfl⟩
    | some w' =>
      have hempty := hrest [] nofun
      rw [hv, hv'] at hempty
      cases hempty
  | some w =>
    cases hv' : v'.child? step with
    | none =>
      have hempty := hrest [] nofun
      rw [hv, hv'] at hempty
      cases hempty
    | some w' =>
      refine .inr ⟨w, w', rfl, rfl, fun path hpath => ?_⟩
      have hsame := hrest path hpath
      rwa [hv, hv'] at hsame

theorem restrict_eq_of_agree (h : AgreeWithin names v v') : restrict names v = restrict names v' := by
  induction v using induction generalizing v' with
  | null =>
    cases v' <;> first | rfl | cases h.field_eq
  | bool b =>
    cases v' <;> first | (cases h.field_eq; rfl) | cases h.field_eq
  | num n =>
    cases v' <;> first | (cases h.field_eq; rfl) | cases h.field_eq
  | str s =>
    cases v' <;> first | (cases h.field_eq; rfl) | cases h.field_eq
  | arr items ih =>
    cases v' with
    | arr items' =>
      have hlength : items.length = items'.length := Field.arr.inj h.field_eq
      rw [restrict, restrict, restrictItems_eq, restrictItems_eq]
      refine congrArg JsonValue.arr (List.ext_getElem (by simp [hlength]) fun i hi hi' => ?_)
      rw [List.length_map] at hi hi'
      rw [List.getElem_map, List.getElem_map]
      rcases h.child? (.index i) nofun with ⟨hnone, _⟩ | ⟨w, w', hw, hw', hagree⟩
      · rw [child?, List.getElem?_eq_getElem hi] at hnone
        cases hnone
      · rw [child?, List.getElem?_eq_getElem hi] at hw
        rw [child?, List.getElem?_eq_getElem hi'] at hw'
        cases hw
        cases hw'
        exact ih _ (List.getElem_mem hi) hagree
    | null | bool | num | str | obj => cases h.field_eq
  | obj members ih =>
    cases v' with
    | obj members' =>
      rw [restrict, restrict, restrictMembers_eq, restrictMembers_eq]
      refine congrArg JsonValue.obj (List.filterMap_congr fun name hname => ?_)
      rw [lookup_map_snd, lookup_map_snd]
      have hstep : ∀ other, Step.key name = .key other → other ∈ names := by
        rintro other heq
        cases heq
        exact hname
      rcases h.child? (.key name) hstep with ⟨hnone, hnone'⟩ | ⟨w, w', hw, hw', hagree⟩
      · rw [child?] at hnone hnone'
        rw [hnone, hnone']
      · rw [child?] at hw hw'
        have hmem : (name, w) ∈ members := by
          obtain ⟨before, after, heq, _⟩ := List.lookup_eq_some_iff.mp hw
          rw [heq]
          exact List.mem_append_right before List.mem_cons_self
        have hsame : restrict names w = restrict names w' := ih (name, w) hmem hagree
        simp only [hw, hw', Option.map_some, hsame]
    | null | bool | num | str | arr => cases h.field_eq

end names

end JsonValue

end ShipyardCp.Lib
