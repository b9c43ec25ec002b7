import SocksProxy.Parser

/-!
# The bounds of the parser

Whether the parser stays inside its tables, for every definition that is well formed and every stream of bytes. The table of
classes that the source offers for a parser without classes lacks the last of the 256 bytes.
-/

namespace SocksProxy

/-- The definition holds together: it has the states it counts with the transitions they count, it starts in one of them, and
every transition leads to one and has its first action. -/
structure ParserDefinition.WellFormed (d : ParserDefinition) : Prop where
  start : d.startState < d.statesCount
  states : d.statesCount ≤ d.states.length
  statesN : d.statesCount ≤ d.statesN.length
  row : ∀ i < d.statesCount, ∀ row ∈ d.states[i]?, ∀ n ∈ d.statesN[i]?, n ≤ row.length ∧
    ∀ t ∈ row.take n, t.dest < d.statesCount ∧ t.act1 ≠ none

/-- What the condition of a transition says: it is the byte, or it is `ANY`, or it is a mask that meets the class of the byte. -/
def ParserStateTransition.Holds (t : ParserStateTransition) (type : BitVec 32) (c : Byte) : Prop :=
  t.when.toInt = c.toNat ∨ t.when = parserAny ∨ t.when.toInt > 0xFF ∧ type &&& t.when ≠ 0

/-- `parser_feed` compares a condition as it is meant: numbers up to 0xFF are bytes. -/
theorem matched_iff (t : ParserStateTransition) (type : BitVec 32) (c : Byte) :
    t.matched type c = true ↔ t.Holds type c := by
  have hc : c.toNat < 256 := c.toNat_lt
  have hany : parserAny.toInt = 512 := by decide
  unfold ParserStateTransition.matched ParserStateTransition.Holds
  by_cases hbyte : t.when.toInt ≤ 0xFF
  · rw [if_pos hbyte, beq_iff_eq]
    constructor
    · intro h
      exact .inl h.symm
    · intro h
      obtain h | h | h := h
      · exact h.symm
      · rw [h, hany] at hbyte
        omega
      · omega
  · rw [if_neg hbyte]
    by_cases hwhen : t.when = parserAny
    · rw [if_pos (beq_iff_eq.mpr hwhen)]
      exact ⟨fun _ => .inr (.inl hwhen), fun _ => rfl⟩
    · rw [if_neg (fun h => hwhen (beq_iff_eq.mp h)), if_pos (by omega), bne_iff_ne]
      constructor
      · intro h
        exact .inr (.inr ⟨by omega, h⟩)
      · intro h
        obtain h | h | h := h
        · omega
        · exact absurd h hwhen
        · exact h.2

/-- The loop of `parser_feed` over transitions that are there stops at the first one whose condition holds. -/
theorem feedLoop_eq {type : BitVec 32} {c : Byte} {state : List ParserStateTransition} {turns i : Nat}
    (h : i + turns ≤ state.length) :
    feedLoop type c state turns i = some (((state.drop i).take turns).find? (·.matched type c)) := by
  induction turns generalizing i with
  | zero => rw [List.take_zero]; rfl
  | succ turns ih =>
    have hi : i < state.length := by omega
    unfold feedLoop
    rw [List.getElem?_eq_getElem hi, List.drop_eq_getElem_cons hi, List.take_succ_cons, List.find?_cons]
    dsimp only
    cases hm : state[i].matched type c with
    | true => rfl
    | false =>
      rw [if_neg Bool.false_ne_true]
      exact ih (by omega)

/-- One feed, where the class, the row and as many transitions as count are there: the first transition whose condition holds is
taken. -/
theorem parserFeed_eq {p : Parser} {c : Byte} {type : BitVec 32} {row : List ParserStateTransition} {n : Nat}
    (htype : p.classes[c.toNat]? = some type) (hrow : p.defn.states[p.state]? = some row)
    (hn : p.defn.statesN[p.state]? = some n) (hle : n ≤ row.length) :
    parserFeed p c =
      ((row.take n).find? (·.matched type c)).elim (some p.clearNext) fun t => p.clearNext.take t c := by
  have hloop := @feedLoop_eq type c row n 0 (by omega)
  rw [List.drop_zero] at hloop
  unfold parserFeed
  rw [htype]
  dsimp only
  rw [hrow, hn]
  dsimp only
  rw [hloop]
  cases (row.take n).find? (·.matched type c) with
  | none => rfl
  | some t => rfl

/-- Feeding one byte more. -/
theorem parserRun_snoc (p : Parser) (bytes : List Byte) (c : Byte) :
    parserRun p (bytes ++ [c]) = (parserRun p bytes).bind fun p => parserFeed p c := by
  induction bytes generalizing p with
  | nil =>
    rw [List.nil_append]
    show (parserFeed p c).bind (fun p => parserRun p []) = parserFeed p c
    cases parserFeed p c with
    | none => rfl
    | some p' => rfl
  | cons b bytes ih =>
    rw [List.cons_append]
    unfold parserRun
    cases parserFeed p b with
    | none => rfl
    | some p' => exact ih p'

/-- The transitions of the state the parser is in. -/
def Parser.transitions (p : Parser) : List ParserStateTransition :=
  ((p.defn.states[p.state]?).getD []).take ((p.defn.statesN[p.state]?).getD 0)

/-- The class of a byte. -/
def Parser.type (p : Parser) (c : Byte) : BitVec 32 := (p.classes[c.toNat]?).getD 0

/-- The parser took the first transition, in the order of the table, whose condition holds for the byte, or none if none holds. -/
def Parser.TookFirst (p : Parser) (c : Byte) (p' : Parser) : Prop :=
  (∃ pre t post, p.transitions = pre ++ t :: post ∧ (∀ u ∈ pre, ¬u.Holds (p.type c) c) ∧ t.Holds (p.type c) c ∧
    p.clearNext.take t c = some p') ∨
  (∀ u ∈ p.transitions, ¬u.Holds (p.type c) c) ∧ p' = p.clearNext

/-- The parser has a definition that is well formed, and is in one of its states. -/
structure Parser.InStates (p : Parser) : Prop where
  wellFormed : p.defn.WellFormed
  state : p.state < p.defn.statesCount

namespace Parser.InStates

variable {p p' : Parser} {c : Byte}

/-- A parser just made. -/
theorem start {d : ParserDefinition} (h : d.WellFormed) (classes : List (BitVec 32)) : (parserInit classes d).InStates :=
  ⟨h, h.start⟩

/-- The row of the state, and how much of it counts. -/
theorem found (h : p.InStates) : ∃ row n, p.defn.states[p.state]? = some row ∧ p.defn.statesN[p.state]? = some n ∧
    p.transitions = row.take n ∧ n ≤ row.length ∧ ∀ t ∈ row.take n, t.dest < p.defn.statesCount ∧ t.act1 ≠ none := by
  have hrow := List.getElem?_eq_getElem (Nat.lt_of_lt_of_le h.state h.wellFormed.states)
  have hn := List.getElem?_eq_getElem (Nat.lt_of_lt_of_le h.state h.wellFormed.statesN)
  refine ⟨_, _, hrow, hn, ?_, h.wellFormed.row p.state h.state _ hrow _ hn⟩
  unfold Parser.transitions
  rw [hrow, hn, Option.getD_some, Option.getD_some]

/-- Taking a transition with a first action. -/
theorem take_eq {t : ParserStateTransition} (h : t.act1 ≠ none) (p : Parser) (c : Byte) :
    ∃ p', p.take t c = some p' ∧ p'.state = t.dest ∧ p'.defn = p.defn ∧ p'.classes = p.classes := by
  unfold Parser.take
  cases ht : t.act1 with
  | none => exact absurd ht h
  | some act1 =>
    cases t.act2 with
    | none => exact ⟨_, rfl, rfl, rfl, rfl⟩
    | some act2 => exact ⟨_, rfl, rfl, rfl, rfl⟩

/-- A byte whose class is in the table is read: the parser takes the first transition that holds, and stays in its states. -/
theorem feed (h : p.InStates) (hc : c.toNat < p.classes.length) :
    ∃ p', parserFeed p c = some p' ∧ p'.InStates ∧ p'.defn = p.defn ∧ p'.classes = p.classes ∧ p.TookFirst c p' := by
  obtain ⟨row, n, hrow, hn, htransitions, hle, hall⟩ := h.found
  have htype : p.classes[c.toNat]? = some (p.type c) := by
    unfold Parser.type
    rw [List.getElem?_eq_getElem hc, Option.getD_some]
  rw [parserFeed_eq htype hrow hn hle]
  cases hfind : (row.take n).find? (·.matched (p.type c) c) with
  | none =>
    refine ⟨p.clearNext, rfl, ⟨h.wellFormed, h.state⟩, rfl, rfl, .inr ⟨?_, rfl⟩⟩
    intro u hu
    rw [htransitions] at hu
    rw [← matched_iff, Bool.not_eq_true]
    exact Bool.eq_false_iff.mpr (List.find?_eq_none.mp hfind u hu)
  | some t =>
    obtain ⟨hholds, pre, post, hsplit, hpre⟩ := List.find?_eq_some_iff_append.mp hfind
    have ht : t ∈ row.take n := List.mem_of_find?_eq_some hfind
    obtain ⟨p', htake, hstate, hdefn, hclasses⟩ := take_eq (hall t ht).2 p.clearNext c
    refine ⟨p', htake, ⟨hdefn ▸ h.wellFormed, ?_⟩, hdefn, hclasses,
      .inl ⟨pre, t, post, ?_, ?_, (matched_iff _ _ _).mp hholds, htake⟩⟩
    · rw [hstate, hdefn]
      exact (hall t ht).1
    · rw [htransitions, hsplit]
    · intro u hu
      have hfalse := hpre u hu
      rw [Bool.not_eq_true'] at hfalse
      rw [← matched_iff, hfalse]
      exact Bool.false_ne_true

end Parser.InStates

/-- While every class is in the table, the parser reads on and stays in its states. -/
theorem Parser.InStates.run {p : Parser} (h : p.InStates) {bytes : List Byte} (hall : ∀ c ∈ bytes, c.toNat < p.classes.length) :
    ∃ p', parserRun p bytes = some p' ∧ p'.InStates ∧ p'.defn = p.defn ∧ p'.classes = p.classes := by
  induction bytes generalizing p with
  | nil => exact ⟨p, rfl, h, rfl, rfl⟩
  | cons c bytes ih =>
    obtain ⟨p', hfeed, hin, hdefn, hclasses, -⟩ := h.feed (hall c (List.mem_cons_self ..))
    have hrest : ∀ b ∈ bytes, b.toNat < p'.classes.length := by
      intro b hb
      rw [hclasses]
      exact hall b (List.mem_cons_of_mem _ hb)
    obtain ⟨p'', hrun, hin', hdefn', hclasses'⟩ := ih hin hrest
    refine ⟨p'', ?_, hin', hdefn'.trans hdefn, hclasses'.trans hclasses⟩
    unfold parserRun
    rw [hfeed]
    exact hrun

/-- A feed of a byte whose class is not in the table reads past its end. -/
theorem parserFeed_outside {p : Parser} {c : Byte} (hc : p.classes.length ≤ c.toNat) : parserFeed p c = none := by
  unfold parserFeed
  rw [List.getElem?_eq_none hc]

/-- The classes of a parser without classes: there is none for the byte 0xFF. -/
theorem class_noClasses (c : Byte) : c.toNat < parserNoClasses.length ↔ c ≠ 0xFF := by
  have hc : c.toNat < 256 := c.toNat_lt
  rw [parserNoClasses, List.length_replicate, ne_eq, UInt8.toNat_inj.symm]
  show c.toNat < 255 ↔ ¬c.toNat = 255
  omega

/-- A parser without classes reads past its table at the byte 0xFF. -/
theorem parserFeed_noClasses {p : Parser} (h : p.classes = parserNoClasses) : parserFeed p 0xFF = none := by
  refine parserFeed_outside (Nat.not_lt.mp fun hlt => ?_)
  rw [h, class_noClasses] at hlt
  exact hlt rfl

/-- For every definition that is well formed and every stream fed to a parser with the table of `parser_no_classes`: every feed
reads inside the tables, stays in the states and takes the first transition whose condition holds, if and only if the stream has
no byte 0xFF. -/
theorem feeds_inside (d : ParserDefinition) (h : d.WellFormed) (bytes : List Byte) :
    (∀ pre c post, bytes = pre ++ c :: post →
      ∃ p p', parserRun (parserInit parserNoClasses d) pre = some p ∧ p.state < d.statesCount ∧
        parserFeed p c = some p' ∧ p'.state < d.statesCount ∧ p.TookFirst c p') ↔
    0xFF ∉ bytes := by
  have hstart : (parserInit parserNoClasses d).InStates := .start h parserNoClasses
  constructor
  · intro hall hmem
    obtain ⟨pre, post, hbytes, hfirst⟩ := List.eq_append_cons_of_mem hmem
    obtain ⟨p, p', hrun, -, hfeed, -⟩ := hall pre 0xFF post hbytes
    obtain ⟨p₁, hrun₁, -, -, hclasses⟩ := hstart.run fun c hc => (class_noClasses c).mpr fun heq => hfirst (heq ▸ hc)
    obtain rfl := Option.some.inj (hrun.symm.trans hrun₁)
    rw [parserFeed_noClasses hclasses] at hfeed
    cases hfeed
  · intro hno pre c post hbytes
    have hclass : ∀ b ∈ bytes, b.toNat < parserNoClasses.length :=
      fun b hb => (class_noClasses b).mpr fun heq => hno (heq ▸ hb)
    obtain ⟨p, hrun, hin, hdefn, hclasses⟩ :=
      hstart.run fun b hb => hclass b (hbytes ▸ List.mem_append_left _ hb)
    have hc : c.toNat < p.classes.length := by
      rw [hclasses]
      exact hclass c (hbytes ▸ List.mem_append_right _ (List.mem_cons_self ..))
    obtain ⟨p', hfeed, hin', hdefn', -, hfirst⟩ := hin.feed hc
    have hd : p'.defn = d := hdefn'.trans hdefn
    change p.defn = d at hdefn
    exact ⟨p, p', hrun, hdefn ▸ hin.state, hfeed, hd ▸ hin'.state, hfirst⟩

/-- A definition of one state: an F in either case, or anything else. -/
def letterF : ParserDefinition where
  statesCount := 1
  states := [[{ when := 0x46, dest := 0, act1 := some fun e _ => e, act2 := none },
    { when := 0x66, dest := 0, act1 := some fun e _ => e, act2 := none },
    { when := parserAny, dest := 0, act1 := some fun e _ => e, act2 := none }]]
  statesN := [3]
  startState := 0

/-- It is well formed. -/
theorem letterF_wellFormed : letterF.WellFormed where
  start := Nat.zero_lt_one
  states := Nat.le_refl 1
  statesN := Nat.le_refl 1
  row := by
    intro i hi row hrow n hn
    obtain rfl : i = 0 := Nat.lt_one_iff.mp hi
    obtain rfl := Option.some.inj hrow
    obtain rfl := Option.some.inj hn
    refine ⟨Nat.le_refl 3, ?_⟩
    intro t ht
    simp only [List.take_succ_cons, List.take_zero, List.mem_cons, List.not_mem_nil, or_false] at ht
    obtain rfl | rfl | rfl := ht <;> exact ⟨Nat.zero_lt_one, Option.some_ne_none _⟩

/-- A stream of letters has no such byte, and stays inside. -/
theorem feeds_inside_letters : 0xFF ∉ ([0x46, 0x66, 0x42] : List Byte) ∧
    ∀ pre c post, ([0x46, 0x66, 0x42] : List Byte) = pre ++ c :: post →
      ∃ p p', parserRun (parserInit parserNoClasses letterF) pre = some p ∧ p.state < letterF.statesCount ∧
        parserFeed p c = some p' ∧ p'.state < letterF.statesCount ∧ p.TookFirst c p' :=
  ⟨by decide, (feeds_inside letterF letterF_wellFormed [0x46, 0x66, 0x42]).mpr (by decide)⟩

/-- The byte 0xFF has no class in the table. -/
theorem feeds_outside : letterF.WellFormed ∧ ¬∀ pre c post, ([0xFF] : List Byte) = pre ++ c :: post →
    ∃ p p', parserRun (parserInit parserNoClasses letterF) pre = some p ∧ p.state < letterF.statesCount ∧
      parserFeed p c = some p' ∧ p'.state < letterF.statesCount ∧ p.TookFirst c p' := by
  refine ⟨letterF_wellFormed, fun hall => ?_⟩
  obtain ⟨p, p', hrun, -, hfeed, -⟩ := hall [] 0xFF [] rfl
  obtain rfl := Option.some.inj hrun
  rw [parserFeed_noClasses rfl] at hfeed
  cases hfeed

end SocksProxy
