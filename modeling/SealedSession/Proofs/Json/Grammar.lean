import SealedSession.Json.Reader
import SealedSession.Proofs.Text.Utf8

/-!
# The grammar of JSON

Which texts spell a document is said here without a reader: token by token, with blanks wherever
they may stand. A number keeps its digits and loses only the shape of its exponent mark; a text
keeps the units of its escapes. So a text spells at most one document, and that is what the reader
finds in it.

The grammar does not ask for more than its tokens do: an escape may give half of a surrogate pair,
and a number may be as large as it likes.

* `Literal.Spells`, `Piece.Spells`: what spells a number, and one element of a text.
* `Spells`: what spells a document or a part of one.
* `Reader.taken_of_spells`: the reader takes in whatever is spelled, wherever it stands.
* `read?_of_spells`: the buffer of a spelled document holds the document.
-/

namespace SealedSession.Json

/-! ## What spells a document -/

/-- Text that may stand between tokens. -/
def Blank (cs : List Char) : Prop := ∀ c ∈ cs, c = ' ' ∨ c = '\t' ∨ c = '\n' ∨ c = '\r'

theorem Blank.nil : Blank [] := List.forall_mem_nil _

namespace Literal

/-- One digit or several. -/
def IsDigits (ds : List Nat) : Prop := ds ≠ [] ∧ ∀ d ∈ ds, d < 10

/-- Digits as they are written. -/
def digits (ds : List Nat) : List Char := ds.map Nat.digitChar

/-- What spells the fraction of a number. -/
inductive SpellsFraction : List Nat → List Char → Prop
  | absent : SpellsFraction [] []
  | present {ds : List Nat} (hd : IsDigits ds) : SpellsFraction ds ('.' :: digits ds)

/-- What spells the sign of an exponent. -/
inductive SpellsSign : Bool → List Char → Prop
  | absent : SpellsSign true []
  | plus : SpellsSign true ['+']
  | minus : SpellsSign false ['-']

/-- What spells the exponent of a number. -/
inductive SpellsExponent : Option (Bool × List Nat) → List Char → Prop
  | absent : SpellsExponent none []
  | present {e : Char} (he : e = 'e' ∨ e = 'E') {positive : Bool} {sign : List Char}
      (hs : SpellsSign positive sign) {ds : List Nat} (hd : IsDigits ds) :
      SpellsExponent (some (positive, ds)) (e :: (sign ++ digits ds))

/-- What spells a number. Its whole part begins with a zero only if that is all of it. -/
inductive Spells : Literal → List Char → Prop
  | mk {negative : Bool} {d : Nat} {whole fraction : List Nat} {exponent : Option (Bool × List Nat)}
      {fs es : List Char} (hw : ∀ k ∈ d :: whole, k < 10) (hz : d = 0 → whole = [])
      (hf : SpellsFraction fraction fs) (he : SpellsExponent exponent es) :
      Spells ⟨negative, d :: whole, fraction, exponent⟩
        ((if negative then ['-'] else []) ++ digits (d :: whole) ++ fs ++ es)

end Literal

/-- What may stand behind a backslash, and the character that it stands for. -/
def shortEscapes : List (Char × Char) :=
  [('\"', '\"'), ('\\', '\\'), ('/', '/'), ('b', '\x08'), ('f', '\x0c'), ('n', '\n'), ('r', '\r'),
    ('t', '\t')]

/-- What spells one element of a text. -/
inductive Piece.Spells : Piece → List Char → Prop
  | plain {c : Char} (h : 0x20 ≤ c.toNat) (hq : c ≠ '\"') (hb : c ≠ '\\') : Spells (.char c) [c]
  | short {c d : Char} (h : (c, d) ∈ shortEscapes) : Spells (.char d) ['\\', c]
  | numeric {a b c d : Char} {w x y z : Nat} (ha : Hex.value? a = some w)
      (hb : Hex.value? b = some x) (hc : Hex.value? c = some y) (hd : Hex.value? d = some z) :
      Spells (.escaped (16 * (16 * (16 * w + x) + y) + z)) ['\\', 'u', a, b, c, d]

/-- What spells a text, between its quotes. -/
inductive SpellsText : List Piece → List Char → Prop
  | nil : SpellsText [] []
  | cons {p : Piece} {ps : List Piece} {cs ds : List Char} (hp : p.Spells cs)
      (hs : SpellsText ps ds) : SpellsText (p :: ps) (cs ++ ds)

/-- A document or a part of one. -/
inductive Stretch where
  | value (j : Raw)
  /-- A value with blanks around it. -/
  | element (j : Raw)
  | elements (js : List Raw)
  | member (key : List Piece) (j : Raw)
  | members (fs : List (List Piece × Raw))

/-- What spells a document or a part of one. -/
inductive Spells : Stretch → List Char → Prop
  | null : Spells (.value .null) ['n', 'u', 'l', 'l']
  | bool (b : Bool) :
      Spells (.value (.bool b)) (if b then ['t', 'r', 'u', 'e'] else ['f', 'a', 'l', 's', 'e'])
  | number {l : Literal} {cs : List Char} (h : l.Spells cs) : Spells (.value (.number l)) cs
  | text {ps : List Piece} {cs : List Char} (h : SpellsText ps cs) :
      Spells (.value (.text ps)) ('\"' :: cs ++ ['\"'])
  | emptyArray {b : List Char} (hb : Blank b) : Spells (.value (.array [])) ('[' :: b ++ [']'])
  | array {js : List Raw} {cs : List Char} (h : Spells (.elements js) cs) :
      Spells (.value (.array js)) ('[' :: cs ++ [']'])
  | emptyObject {b : List Char} (hb : Blank b) :
      Spells (.value (.object [])) ('\x7b' :: b ++ ['\x7d'])
  | object {fs : List (List Piece × Raw)} {cs : List Char} (h : Spells (.members fs) cs) :
      Spells (.value (.object fs)) ('\x7b' :: cs ++ ['\x7d'])
  | element {j : Raw} {b cs b' : List Char} (hb : Blank b) (h : Spells (.value j) cs)
      (hb' : Blank b') : Spells (.element j) (b ++ cs ++ b')
  | lastElement {j : Raw} {cs : List Char} (h : Spells (.element j) cs) : Spells (.elements [j]) cs
  | nextElement {j : Raw} {js : List Raw} {cs ds : List Char} (h : Spells (.element j) cs)
      (hs : Spells (.elements js) ds) : Spells (.elements (j :: js)) (cs ++ ',' :: ds)
  | member {key : List Piece} {j : Raw} {b ks b' cs : List Char} (hb : Blank b)
      (hk : SpellsText key ks) (hb' : Blank b') (h : Spells (.element j) cs) :
      Spells (.member key j) (b ++ '\"' :: (ks ++ '\"' :: (b' ++ ':' :: cs)))
  | lastMember {key : List Piece} {j : Raw} {cs : List Char} (h : Spells (.member key j) cs) :
      Spells (.members [(key, j)]) cs
  | nextMember {key : List Piece} {j : Raw} {fs : List (List Piece × Raw)} {cs ds : List Char}
      (h : Spells (.member key j) cs) (hs : Spells (.members fs) ds) :
      Spells (.members ((key, j) :: fs)) (cs ++ ',' :: ds)

namespace Spells

variable {j : Raw} {key : List Piece} {ks cs : List Char}

/-- No blanks need stand around a value. -/
theorem bare (h : Spells (.value j) cs) : Spells (.element j) cs := by
  have he := Spells.element .nil h .nil
  simpa using he

theorem bareMember (hk : SpellsText key ks) (h : Spells (.value j) cs) :
    Spells (.member key j) (('\"' :: ks ++ ['\"']) ++ ':' :: cs) := by
  have hm := Spells.member .nil hk .nil h.bare
  simpa using hm

end Spells

namespace Reader

theorem run_cons (s : State) (u : Utf8.Unit) (us : List Utf8.Unit) :
    run s (u :: us) = (step s u).bind fun s ↦ run s us := by
  rw [run]
  cases step s u <;> rfl

/-! ## Blanks -/

/-- Blanks are passed over in a state that passes over each of them. -/
theorem run_blank {s : State} (hs : ∀ c, isBlank c = true → step s (.char c) = some s)
    {b : List Char} (hb : Blank b) (rest : List Utf8.Unit) :
    run s (b.map .char ++ rest) = run s rest := by
  induction b with
  | nil => rfl
  | cons c b ih =>
    obtain ⟨hc, hb⟩ := List.forall_mem_cons.mp hb
    have hc : isBlank c = true := by rcases hc with rfl | rfl | rfl | rfl <;> rfl
    rw [List.map_cons, List.cons_append, run_cons, hs c hc, Option.bind_some]
    exact ih hb

theorem step_blank_value (stack : List Frame) (c : Char) (hc : isBlank c = true) :
    step ⟨stack, .value⟩ (.char c) = some ⟨stack, .value⟩ := by
  simp [step, hc]

theorem step_blank_firstItem (stack : List Frame) (c : Char) (hc : isBlank c = true) :
    step ⟨stack, .firstItem⟩ (.char c) = some ⟨stack, .firstItem⟩ := by
  simp [step, hc]

theorem step_blank_firstKey (stack : List Frame) (c : Char) (hc : isBlank c = true) :
    step ⟨stack, .firstKey⟩ (.char c) = some ⟨stack, .firstKey⟩ := by
  simp [step, hc]

theorem step_blank_key (stack : List Frame) (done : List (List Piece × Raw)) (c : Char)
    (hc : isBlank c = true) : step ⟨stack, .key done⟩ (.char c) = some ⟨stack, .key done⟩ := by
  simp [step, hc]

theorem step_blank_colon (stack : List Frame) (done : List (List Piece × Raw)) (key : List Piece)
    (c : Char) (hc : isBlank c = true) :
    step ⟨stack, .colon done key⟩ (.char c) = some ⟨stack, .colon done key⟩ := by
  simp [step, hc]

/-! ## The end of a value -/

/-- What may follow a value. -/
def Ends (c : Char) : Prop := c = ',' ∨ c = ']' ∨ c = '\x7d' ∨ isBlank c = true

/-- A value has been read, though it may still be open where a number ends: what follows a value
is taken as after the value. -/
structure Settled (s : State) (v : Raw) (stack : List Frame) : Prop where
  step_eq : ∀ c, Ends c → step s (.char c) = afterValue (complete v stack) c
  finish_eq : stack = [] → finish s = some v

theorem settled_complete (v : Raw) (stack : List Frame) : Settled (complete v stack) v stack where
  step_eq c _ := by rcases stack with _ | ⟨_ | _, stack⟩ <;> rfl
  finish_eq h := by subst h; rfl

/-- Blanks leave a value as it was read. -/
theorem Settled.blanks {s : State} {v : Raw} {stack : List Frame} (h : Settled s v stack)
    {b : List Char} (hb : Blank b) :
    ∃ s', run s (b.map .char) = some s' ∧ Settled s' v stack := by
  have passed : ∀ c, isBlank c = true →
      step (complete v stack) (.char c) = some (complete v stack) := by
    intro c hc
    rcases stack with _ | ⟨_ | _, stack⟩ <;> simp [complete, step, afterItem, afterField, hc]
  cases b with
  | nil => exact ⟨s, rfl, h⟩
  | cons c b =>
    obtain ⟨hc, hb⟩ := List.forall_mem_cons.mp hb
    have hc : isBlank c = true := by rcases hc with rfl | rfl | rfl | rfl <;> rfl
    have hstep : step s (.char c) = some (complete v stack) := by
      rw [h.step_eq c (.inr (.inr (.inr hc))), ← passed c hc]
      exact ((settled_complete v stack).step_eq c (.inr (.inr (.inr hc)))).symm
    refine ⟨complete v stack, ?_, settled_complete v stack⟩
    have hr := run_blank passed hb []
    rw [List.append_nil] at hr
    rw [List.map_cons, run_cons, hstep, Option.bind_some, hr, run_nil]

/-! ## Numbers -/

theorem digit?_digitChar {d : Nat} (h : d < 10) : digit? d.digitChar = some d := by
  have ha : ∀ k : Fin 10, digit? (Nat.digitChar k) = some k.val := by decide
  exact ha ⟨d, h⟩

/-- What ends a value continues no number that may end. -/
theorem extend?_of_ends {part : Part} (hp : part.complete = true) (l : Literal) {c : Char}
    (hc : Ends c) : extend? part l c = none := by
  have hd : digit? c = none := by
    rcases hc with rfl | rfl | rfl | hc
    · rfl
    · rfl
    · rfl
    · simp only [isBlank, Bool.or_eq_true, decide_eq_true_eq] at hc
      rcases hc with ((rfl | rfl) | rfl) | rfl <;> rfl
  have hn : c ≠ '.' ∧ c ≠ 'e' ∧ c ≠ 'E' := by
    rcases hc with rfl | rfl | rfl | hc
    · decide
    · decide
    · decide
    · simp only [isBlank, Bool.or_eq_true, decide_eq_true_eq] at hc
      rcases hc with ((rfl | rfl) | rfl) | rfl <;> decide
  cases part with
  | zero | whole | fraction => simp [extend?, hd, hn]
  | exponent => simp [extend?, hd]
  | _ => cases hp

theorem settled_number {part : Part} (hp : part.complete = true) (l : Literal)
    (stack : List Frame) :
    Settled ⟨stack, .number part l⟩ (.number (Literal.settled l)) stack where
  step_eq c hc := by simp only [step, extend?_of_ends hp l hc, hp, if_true]
  finish_eq h := by
    subst h
    simp only [finish, hp, if_true]

/-- Digits continue a part of a number, each in its turn. The part has its digits newest first. -/
theorem run_digits {part : Part} (f : List Nat → Literal)
    (hf : ∀ ds d, d < 10 → extend? part (f ds) d.digitChar = some (part, f (d :: ds)))
    {ds : List Nat} (hd : ∀ d ∈ ds, d < 10) (before : List Nat) (stack : List Frame)
    (rest : List Utf8.Unit) :
    run ⟨stack, .number part (f before)⟩ ((Literal.digits ds).map .char ++ rest) =
      run ⟨stack, .number part (f (ds.reverse ++ before))⟩ rest := by
  induction ds generalizing before with
  | nil => rfl
  | cons d ds ih =>
    obtain ⟨hd, hds⟩ := List.forall_mem_cons.mp hd
    change run _ (.char d.digitChar :: ((Literal.digits ds).map .char ++ rest)) = _
    rw [run_cons]
    simp only [step, hf before d hd, Option.bind_some]
    rw [ih hds, List.reverse_cons, List.append_assoc]
    rfl

theorem isBlank_digitChar {d : Nat} (h : d < 10) : isBlank d.digitChar = false := by
  have ha : ∀ k : Fin 10, isBlank (Nat.digitChar k) = false := by decide
  exact ha ⟨d, h⟩

/-- A digit begins a number. -/
theorem start_digitChar {d : Nat} (h : d < 10) (stack : List Frame) :
    start stack d.digitChar =
      some ⟨stack, .number (if d = 0 then .zero else .whole) ⟨false, [d], [], none⟩⟩ := by
  have ha : ∀ k : Fin 10, Nat.digitChar k ≠ '\x7b' ∧ Nat.digitChar k ≠ '[' ∧
      Nat.digitChar k ≠ '\"' ∧ Nat.digitChar k ≠ '-' ∧ Nat.digitChar k ≠ 'n' ∧
      Nat.digitChar k ≠ 't' ∧ Nat.digitChar k ≠ 'f' := by decide
  obtain ⟨h₁, h₂, h₃, h₄, h₅, h₆, h₇⟩ := ha ⟨d, h⟩
  rw [start, if_neg h₁, if_neg h₂, if_neg h₃, if_neg h₄, if_neg h₅, if_neg h₆, if_neg h₇,
    digit?_digitChar h, Option.map_some]

theorem step_value {c : Char} (hc : isBlank c = false) (stack : List Frame) :
    step ⟨stack, .value⟩ (.char c) = start stack c := by
  simp only [step, hc]
  rfl

/-- The sign and the whole part of a number are taken in. -/
theorem run_whole {d : Nat} {whole : List Nat} (hw : ∀ k ∈ d :: whole, k < 10)
    (hz : d = 0 → whole = []) (negative : Bool) (stack : List Frame) (rest : List Utf8.Unit) :
    run ⟨stack, .value⟩ (((if negative then ['-'] else []) ++ Literal.digits (d :: whole)).map .char
        ++ rest) =
      run ⟨stack, .number (if d = 0 then .zero else .whole)
        ⟨negative, (d :: whole).reverse, [], none⟩⟩ rest := by
  obtain ⟨hd, hw⟩ := List.forall_mem_cons.mp hw
  -- the digits after the first
  have further : run ⟨stack, .number (if d = 0 then .zero else .whole) ⟨negative, [d], [], none⟩⟩
      ((Literal.digits whole).map .char ++ rest) =
      run ⟨stack, .number (if d = 0 then .zero else .whole)
        ⟨negative, (d :: whole).reverse, [], none⟩⟩ rest := by
    by_cases h : d = 0
    · rw [hz h]
      rfl
    · rw [if_neg h, List.reverse_cons]
      refine run_digits (fun ds ↦ ⟨negative, ds, [], none⟩) (fun ds k hk ↦ ?_) hw [d] stack rest
      simp only [extend?, digit?_digitChar hk]
  cases negative with
  | true =>
    change run ⟨stack, .value⟩ (.char '-' :: .char d.digitChar ::
      ((Literal.digits whole).map .char ++ rest)) = _
    rw [run_cons, step_value rfl]
    change run ⟨stack, .number .sign ⟨true, [], [], none⟩⟩ _ = _
    rw [run_cons]
    simp only [step, extend?, digit?_digitChar hd, Option.bind_some]
    exact further
  | false =>
    change run ⟨stack, .value⟩ (.char d.digitChar ::
      ((Literal.digits whole).map .char ++ rest)) = _
    rw [run_cons, step_value (isBlank_digitChar hd), start_digitChar hd, Option.bind_some]
    exact further

/-- The fraction of a number is taken in. -/
theorem run_fraction {part : Part} (hp : part = .zero ∨ part = .whole) {fraction : List Nat}
    {fs : List Char} (hf : Literal.SpellsFraction fraction fs) {l : Literal} (hl : l.fraction = [])
    (stack : List Frame) (rest : List Utf8.Unit) :
    ∃ part', (part' = .zero ∨ part' = .whole ∨ part' = .fraction) ∧
      run ⟨stack, .number part l⟩ (fs.map .char ++ rest) =
        run ⟨stack, .number part' { l with fraction := fraction.reverse }⟩ rest := by
  cases hf with
  | absent =>
    refine ⟨part, hp.imp_right .inl, ?_⟩
    rw [List.reverse_nil, ← hl]
    rfl
  | present hd =>
    refine ⟨.fraction, .inr (.inr rfl), ?_⟩
    obtain ⟨d, ds, rfl⟩ := List.exists_cons_of_ne_nil hd.1
    obtain ⟨hd, hds⟩ := List.forall_mem_cons.mp hd.2
    have hpoint : step ⟨stack, .number part l⟩ (.char '.') = some ⟨stack, .number .point l⟩ := by
      rcases hp with rfl | rfl <;> rfl
    change run ⟨stack, .number part l⟩ (.char '.' :: .char d.digitChar ::
      ((Literal.digits ds).map .char ++ rest)) = _
    rw [run_cons, hpoint, Option.bind_some, run_cons]
    simp only [step, extend?, digit?_digitChar hd, Option.bind_some]
    rw [hl, List.reverse_cons]
    refine run_digits (fun ds ↦ { l with fraction := ds }) (fun ds k hk ↦ ?_) hds [d] stack rest
    simp only [extend?, digit?_digitChar hk]

/-- The sign and the first digit of an exponent are taken in. -/
theorem run_sign {positive : Bool} {sign : List Char} (hs : Literal.SpellsSign positive sign)
    {d : Nat} (hd : d < 10) (l : Literal) (stack : List Frame) (rest : List Utf8.Unit) :
    run ⟨stack, .number .mark l⟩ (sign.map .char ++ .char d.digitChar :: rest) =
      run ⟨stack, .number .exponent { l with exponent := some (positive, [d]) }⟩ rest := by
  cases hs with
  | absent =>
    rw [List.map_nil, List.nil_append, run_cons]
    simp only [step, extend?, digit?_digitChar hd, Option.bind_some]
  | plus =>
    change run ⟨stack, .number .markSign { l with exponent := some (true, []) }⟩
      (.char d.digitChar :: rest) = _
    rw [run_cons]
    simp only [step, extend?, digit?_digitChar hd, Option.bind_some, Option.map_some]
  | minus =>
    change run ⟨stack, .number .markSign { l with exponent := some (false, []) }⟩
      (.char d.digitChar :: rest) = _
    rw [run_cons]
    simp only [step, extend?, digit?_digitChar hd, Option.bind_some, Option.map_some]

/-- The exponent of a number is taken in. -/
theorem run_exponent {part : Part} (hp : part = .zero ∨ part = .whole ∨ part = .fraction)
    {exponent : Option (Bool × List Nat)} {es : List Char}
    (he : Literal.SpellsExponent exponent es) {l : Literal} (hl : l.exponent = none)
    (stack : List Frame) (rest : List Utf8.Unit) :
    ∃ part', part'.complete = true ∧
      run ⟨stack, .number part l⟩ (es.map .char ++ rest) =
        run ⟨stack, .number part'
          { l with exponent := exponent.map fun e ↦ (e.1, e.2.reverse) }⟩ rest := by
  cases he with
  | absent =>
    refine ⟨part, by rcases hp with rfl | rfl | rfl <;> rfl, ?_⟩
    rw [Option.map_none, ← hl]
    rfl
  | @present e he positive sign hs ds hd =>
    refine ⟨.exponent, rfl, ?_⟩
    obtain ⟨d, ds, rfl⟩ := List.exists_cons_of_ne_nil hd.1
    obtain ⟨hd, hds⟩ := List.forall_mem_cons.mp hd.2
    have hmark : step ⟨stack, .number part l⟩ (.char e) = some ⟨stack, .number .mark l⟩ := by
      rcases he with rfl | rfl <;> rcases hp with rfl | rfl | rfl <;> rfl
    rw [List.map_cons, List.cons_append, run_cons, hmark, Option.bind_some, List.map_append,
      List.append_assoc]
    refine (run_sign hs hd l stack _).trans ?_
    rw [Option.map_some, List.reverse_cons]
    refine run_digits (fun ds ↦ { l with exponent := some (positive, ds) }) (fun ds k hk ↦ ?_)
      hds [d] stack rest
    simp only [extend?, digit?_digitChar hk, Option.map_some]

/-- A number is read as what it spells. -/
theorem run_number {l : Literal} {cs : List Char} (h : l.Spells cs) (stack : List Frame) :
    ∃ s, run ⟨stack, .value⟩ (cs.map .char) = some s ∧ Settled s (.number l) stack := by
  cases h with
  | @mk negative d whole fraction exponent fs es hw hz hf he =>
    obtain ⟨l, hl⟩ : ∃ l : Literal, l = ⟨negative, (d :: whole).reverse, [], none⟩ := ⟨_, rfl⟩
    have hstart : (if d = 0 then Part.zero else .whole) = .zero ∨
        (if d = 0 then Part.zero else .whole) = .whole := by split <;> simp
    obtain ⟨part, hp, hfs⟩ := run_fraction hstart hf (l := l) (by rw [hl]) stack (es.map .char)
    obtain ⟨part', hp', hes⟩ := run_exponent hp he (l := { l with fraction := fraction.reverse })
      (by rw [hl]) stack []
    have hs : Literal.settled { l with
        fraction := fraction.reverse, exponent := exponent.map fun e ↦ (e.1, e.2.reverse) } =
        ⟨negative, d :: whole, fraction, exponent⟩ := by
      rw [hl, Literal.settled]
      cases exponent <;> simp
    refine ⟨_, ?_, hs ▸ settled_number hp' _ stack⟩
    rw [List.append_assoc, List.map_append, run_whole hw hz, ← hl, List.map_append, hfs,
      ← List.append_nil (es.map Utf8.Unit.char), hes, run_nil]

/-! ## Texts -/

theorem step_text (stack : List Frame) (place : Place) (pieces : List Piece) (e : Escape)
    (u : Utf8.Unit) : step ⟨stack, .text place pieces e⟩ u = textStep stack place pieces e u := rfl

theorem escape?_of_mem {c d : Char} (h : (c, d) ∈ shortEscapes) : escape? c = some d ∧ c ≠ 'u' := by
  simp only [shortEscapes, List.mem_cons, Prod.mk.injEq, List.not_mem_nil, or_false] at h
  rcases h with ⟨rfl, rfl⟩ | ⟨rfl, rfl⟩ | ⟨rfl, rfl⟩ | ⟨rfl, rfl⟩ | ⟨rfl, rfl⟩ | ⟨rfl, rfl⟩ |
    ⟨rfl, rfl⟩ | ⟨rfl, rfl⟩ <;> exact ⟨rfl, by decide⟩

/-- One element of a text is taken in. -/
theorem run_piece {p : Piece} {cs : List Char} (h : p.Spells cs) (stack : List Frame)
    (place : Place) (done : List Piece) (rest : List Utf8.Unit) :
    run ⟨stack, .text place done .none⟩ (cs.map .char ++ rest) =
      run ⟨stack, .text place (p :: done) .none⟩ rest := by
  cases h with
  | @plain c h hq hb =>
    rw [List.map_singleton, List.singleton_append, run_cons, step_text, textStep, if_neg hq,
      if_neg hb, if_neg (Nat.not_lt.mpr h), Option.bind_some]
  | @short c d h =>
    obtain ⟨he, hu⟩ := escape?_of_mem h
    change run ⟨stack, .text place done .none⟩ (.char '\\' :: .char c :: rest) = _
    rw [run_cons]
    change run ⟨stack, .text place done .opened⟩ _ = _
    rw [run_cons, step_text, textStep, if_neg hu, he, Option.map_some, Option.bind_some]
  | numeric ha hb hc hd =>
    simp [run_cons, step_text, textStep, ha, hb, hc, hd]

theorem run_pieces {ps : List Piece} {cs : List Char} (h : SpellsText ps cs) (stack : List Frame)
    (place : Place) (done : List Piece) (rest : List Utf8.Unit) :
    run ⟨stack, .text place done .none⟩ (cs.map .char ++ rest) =
      run ⟨stack, .text place (ps.reverse ++ done) .none⟩ rest := by
  induction h generalizing done with
  | nil => rfl
  | cons hp _ ih =>
    rw [List.map_append, List.append_assoc, run_piece hp, ih]
    simp

/-- A text is taken in up to its closing quote. -/
theorem run_text {ps : List Piece} {cs : List Char} (h : SpellsText ps cs) (stack : List Frame)
    (place : Place) (rest : List Utf8.Unit) :
    run ⟨stack, .text place [] .none⟩ (cs.map .char ++ .char '\"' :: rest) =
      run (closeText stack ps.reverse place) rest := by
  rw [run_pieces h, List.append_nil, run_cons, step_text, textStep, if_pos rfl, Option.bind_some]

/-! ## Documents -/

/-- How the reader takes in a stretch of a document: it arrives at what the stretch spells, wherever
the stretch may stand. The first element of an array and the first member of an object are taken in
by states of their own. -/
def Taken : Stretch → List Char → Prop
  | .value j, cs => (∃ c rest, cs = c :: rest ∧ isBlank c = false ∧ c ≠ ']') ∧
      ∀ stack, ∃ s, run ⟨stack, .value⟩ (cs.map .char) = some s ∧ Settled s j stack
  | .element j, cs =>
      (∀ stack rest, run ⟨stack, .firstItem⟩ (cs.map .char ++ rest) =
        run ⟨.items [] :: stack, .value⟩ (cs.map .char ++ rest)) ∧
      ∀ stack, ∃ s, run ⟨stack, .value⟩ (cs.map .char) = some s ∧ Settled s j stack
  | .elements js, cs =>
      (∀ stack rest, run ⟨stack, .firstItem⟩ (cs.map .char ++ rest) =
        run ⟨.items [] :: stack, .value⟩ (cs.map .char ++ rest)) ∧
      ∀ stack done, run ⟨.items done :: stack, .value⟩ ((cs ++ [']']).map .char) =
        some (complete (.array (done.reverse ++ js)) stack)
  | .member key j, cs => ∀ stack done mode, mode = .key done ∨ mode = .firstKey ∧ done = [] →
      ∃ s, run ⟨stack, mode⟩ (cs.map .char) = some s ∧ Settled s j (.field done key :: stack)
  | .members fs, cs => ∀ stack done mode, mode = .key done ∨ mode = .firstKey ∧ done = [] →
      run ⟨stack, mode⟩ ((cs ++ ['\x7d']).map .char) =
        some (complete (.object (done.reverse ++ fs)) stack)

section

variable {j : Raw} {js : List Raw} {key : List Piece} {fs : List (List Piece × Raw)}
  {b b' ks cs ds : List Char}

theorem taken_number {l : Literal} (h : l.Spells cs) : Taken (.value (.number l)) cs := by
  refine ⟨?_, run_number h⟩
  cases h with
  | @mk negative d whole fraction exponent fs es hw =>
    have hd : d < 10 := hw d List.mem_cons_self
    have ha : ∀ k : Fin 10, Nat.digitChar k ≠ ']' := by decide
    cases negative with
    | true => exact ⟨'-', _, rfl, rfl, by decide⟩
    | false => exact ⟨d.digitChar, _, rfl, isBlank_digitChar hd, ha ⟨d, hd⟩⟩

theorem taken_text {ps : List Piece} (h : SpellsText ps cs) :
    Taken (.value (.text ps)) ('\"' :: cs ++ ['\"']) := by
  refine ⟨⟨'\"', cs ++ ['\"'], rfl, rfl, by decide⟩, fun stack ↦ ⟨_, ?_, settled_complete _ stack⟩⟩
  rw [List.cons_append, List.map_cons, run_cons, step_value rfl]
  change run ⟨stack, .text .value [] .none⟩ _ = _
  rw [List.map_append, List.map_singleton, run_text h, closeText, List.reverse_reverse, run_nil]

theorem taken_emptyArray (hb : Blank b) : Taken (.value (.array [])) ('[' :: b ++ [']']) := by
  refine ⟨⟨'[', b ++ [']'], rfl, rfl, by decide⟩, fun stack ↦ ⟨_, ?_, settled_complete _ stack⟩⟩
  rw [List.cons_append, List.map_cons, run_cons, step_value rfl]
  change run ⟨stack, .firstItem⟩ _ = _
  rw [List.map_append, run_blank (step_blank_firstItem stack) hb]
  rfl

theorem taken_array (h : Taken (.elements js) cs) :
    Taken (.value (.array js)) ('[' :: cs ++ [']']) := by
  refine ⟨⟨'[', cs ++ [']'], rfl, rfl, by decide⟩, fun stack ↦ ⟨_, ?_, settled_complete _ stack⟩⟩
  rw [List.cons_append, List.map_cons, run_cons, step_value rfl]
  change run ⟨stack, .firstItem⟩ _ = _
  rw [List.map_append, h.1, ← List.map_append, h.2]
  rfl

theorem taken_emptyObject (hb : Blank b) :
    Taken (.value (.object [])) ('\x7b' :: b ++ ['\x7d']) := by
  refine ⟨⟨'\x7b', b ++ ['\x7d'], rfl, rfl, by decide⟩, fun stack ↦
    ⟨_, ?_, settled_complete _ stack⟩⟩
  rw [List.cons_append, List.map_cons, run_cons, step_value rfl]
  change run ⟨stack, .firstKey⟩ _ = _
  rw [List.map_append, run_blank (step_blank_firstKey stack) hb]
  rfl

theorem taken_object (h : Taken (.members fs) cs) :
    Taken (.value (.object fs)) ('\x7b' :: cs ++ ['\x7d']) := by
  refine ⟨⟨'\x7b', cs ++ ['\x7d'], rfl, rfl, by decide⟩, fun stack ↦
    ⟨_, ?_, settled_complete _ stack⟩⟩
  rw [List.cons_append, List.map_cons, run_cons, step_value rfl]
  exact h stack [] .firstKey (.inr ⟨rfl, rfl⟩)

/-- A value may have blanks around it, and be the first of an array. -/
theorem taken_element (hb : Blank b) (h : Taken (.value j) cs) (hb' : Blank b') :
    Taken (.element j) (b ++ cs ++ b') := by
  obtain ⟨⟨c, rest, rfl, hc, hn⟩, hv⟩ := h
  constructor
  · intro stack rest'
    rw [List.append_assoc, List.map_append, List.append_assoc,
      run_blank (step_blank_firstItem stack) hb, run_blank (step_blank_value _) hb,
      List.cons_append, List.map_cons, List.cons_append, run_cons, run_cons, step_value hc]
    simp only [step, hc, hn, if_false]
    rfl
  · intro stack
    obtain ⟨s, hs, hv⟩ := hv stack
    obtain ⟨s', hs', hv'⟩ := hv.blanks hb'
    refine ⟨s', ?_, hv'⟩
    rw [List.append_assoc, List.map_append, run_blank (step_blank_value _) hb, List.map_append,
      run_append, hs, Option.bind_some, hs']

theorem taken_lastElement (h : Taken (.element j) cs) : Taken (.elements [j]) cs := by
  refine ⟨h.1, fun stack done ↦ ?_⟩
  obtain ⟨s, hs, hv⟩ := h.2 (.items done :: stack)
  rw [List.map_append, run_append, hs, Option.bind_some, List.map_singleton, run_cons,
    hv.step_eq ']' (.inr (.inl rfl)), ← List.reverse_cons]
  rfl

theorem taken_nextElement (h : Taken (.element j) cs) (hs : Taken (.elements js) ds) :
    Taken (.elements (j :: js)) (cs ++ ',' :: ds) := by
  refine ⟨fun stack rest ↦ ?_, fun stack done ↦ ?_⟩
  · rw [List.map_append, List.append_assoc, h.1]
  · obtain ⟨s, hr, hv⟩ := h.2 (.items done :: stack)
    rw [List.append_assoc, List.map_append, run_append, hr, Option.bind_some, List.cons_append,
      List.map_cons, run_cons, hv.step_eq ',' (.inl rfl)]
    change run ⟨.items (j :: done) :: stack, .value⟩ _ = _
    rw [hs.2, List.reverse_cons, List.append_assoc]
    rfl

theorem taken_member (hb : Blank b) (hk : SpellsText key ks) (hb' : Blank b')
    (h : Taken (.element j) cs) :
    Taken (.member key j) (b ++ '\"' :: (ks ++ '\"' :: (b' ++ ':' :: cs))) := by
  rintro stack done mode hm
  obtain ⟨s, hs, hv⟩ := h.2 (.field done key :: stack)
  refine ⟨s, ?_, hv⟩
  have hquote : run ⟨stack, mode⟩ ((b ++ '\"' :: (ks ++ '\"' :: (b' ++ ':' :: cs))).map .char) =
      run ⟨stack, .text (.key done) [] .none⟩
        (ks.map .char ++ .char '\"' :: (b' ++ ':' :: cs).map .char) := by
    rw [List.map_append]
    obtain rfl | ⟨rfl, rfl⟩ := hm
    · rw [run_blank (step_blank_key stack done) hb, List.map_cons, run_cons, List.map_append]
      rfl
    · rw [run_blank (step_blank_firstKey stack) hb, List.map_cons, run_cons, List.map_append]
      rfl
  rw [hquote, run_text hk, closeText, List.reverse_reverse, List.map_append,
    run_blank (step_blank_colon stack done key) hb', List.map_cons, run_cons]
  exact hs

theorem taken_lastMember (h : Taken (.member key j) cs) : Taken (.members [(key, j)]) cs := by
  intro stack done mode hm
  obtain ⟨s, hs, hv⟩ := h stack done mode hm
  rw [List.map_append, run_append, hs, Option.bind_some, List.map_singleton, run_cons,
    hv.step_eq '\x7d' (.inr (.inr (.inl rfl))), ← List.reverse_cons]
  rfl

theorem taken_nextMember (h : Taken (.member key j) cs) (hs : Taken (.members fs) ds) :
    Taken (.members ((key, j) :: fs)) (cs ++ ',' :: ds) := by
  intro stack done mode hm
  obtain ⟨s, hr, hv⟩ := h stack done mode hm
  rw [List.append_assoc, List.map_append, run_append, hr, Option.bind_some, List.cons_append,
    List.map_cons, run_cons, hv.step_eq ',' (.inl rfl)]
  change run ⟨stack, .key ((key, j) :: done)⟩ _ = _
  rw [hs stack _ _ (.inl rfl), List.reverse_cons, List.append_assoc]
  rfl

end

/-- Whatever is spelled is taken in. -/
theorem taken_of_spells {t : Stretch} {cs : List Char} (h : Spells t cs) : Taken t cs := by
  induction h with
  | null =>
    exact ⟨⟨_, _, rfl, rfl, by decide⟩, fun stack ↦ ⟨_, rfl, settled_complete .null stack⟩⟩
  | bool b =>
    cases b with
    | true =>
      exact ⟨⟨_, _, rfl, rfl, by decide⟩, fun stack ↦ ⟨_, rfl, settled_complete _ stack⟩⟩
    | false =>
      exact ⟨⟨_, _, rfl, rfl, by decide⟩, fun stack ↦ ⟨_, rfl, settled_complete _ stack⟩⟩
  | number h => exact taken_number h
  | text h => exact taken_text h
  | emptyArray hb => exact taken_emptyArray hb
  | array _ ih => exact taken_array ih
  | emptyObject hb => exact taken_emptyObject hb
  | object _ ih => exact taken_object ih
  | element hb _ hb' ih => exact taken_element hb ih hb'
  | lastElement _ ih => exact taken_lastElement ih
  | nextElement _ _ ih ihs => exact taken_nextElement ih ihs
  | member hb hk hb' _ ih => exact taken_member hb hk hb' ih
  | lastMember _ ih => exact taken_lastMember ih
  | nextMember _ _ ih ihs => exact taken_nextMember ih ihs

end Reader

/-- The buffer of a spelled document holds the document. -/
theorem read?_of_spells {j : Raw} {text : List Char} (h : Spells (.element j) text) :
    read? (Utf8.encode text) = some j := by
  obtain ⟨s, hs, hv⟩ := (Reader.taken_of_spells h).2 []
  rw [read?, Utf8.scan_encode, hs, Option.bind_some]
  exact hv.finish_eq rfl

/-- A text spells one document at most. -/
theorem Spells.unique {j k : Raw} {text : List Char} (hj : Spells (.element j) text)
    (hk : Spells (.element k) text) : j = k :=
  Option.some.inj ((read?_of_spells hj).symm.trans (read?_of_spells hk))

end SealedSession.Json
