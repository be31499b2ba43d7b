import Mathlib.Algebra.Order.BigOperators.Group.List
import Mathlib.Algebra.Order.Ring.Nat
import DreamHeroes.HeroRequests
import DreamHeroes.SaveText

/- Requests of a client against the fixed buffers its texts are printed into: those of the next
   SaveHero, and those of the database server for the keys it has looked up. -/
namespace SprintfBounds

open ByteWords SuitText GameHero GameServer HeroRequests SaveText LabelledRuns

/- A hero, and the keys on their way to the database server. -/
structure Asked where
  hero : DreamHero
  sent : List CdKey

/- None when a request ran past the end of the suits. -/
def step (asked : Option Asked) (request : ClientRequest) : Option Asked :=
  asked.bind fun asked => (afterRequest asked.hero request).map fun hero =>
    ⟨hero, asked.sent ++ asks asked.hero request⟩

/-- Both statements about a key fit. The account is what the message says, the time that of the
    update. -/
def KeyFits (clock : Clock) (cdKey : CdKey) : Prop :=
  (verifySprintf cdKey).fits ∧
    ∀ (serverTime account : UInt64), (updateSprintf clock serverTime account.toNat cdKey).fits

/-- No sprintf of the next SaveHero and of the keys under way runs over its buffer. -/
def Bounded (clock : Clock) (asked : Option Asked) : Prop :=
  ∀ a ∈ asked, (∀ sprintf ∈ saveSprintfs clock a.hero, sprintf.fits) ∧
    ∀ cdKey ∈ a.sent, KeyFits clock cdKey

/-- The suits of other ids, and how many the request leaves with its own. -/
def otherSuits (suits : List MsgSuitData) (suitId : Int32) : List MsgSuitData :=
  suits.filter (·.suitId ≠ suitId)

def copies (suits : List MsgSuitData) (suitId : Int32) : Nat :=
  max 1 (suits.countP (·.suitId = suitId))

/-- A suit of a request is short, and leaves the row of the character short with the suits of
    other ids. -/
def SuitRoom (info : MsgHeroData) (suit : MsgSuitData) : Prop :=
  nameWidth suit < suitTempSize ∧
    baseWidth info + ((otherSuits info.suits suit.suitId).map entryWidth).sum +
      copies info.suits suit.suitId * entryWidth suit +
      ((otherSuits info.suits suit.suitId).length + copies info.suits suit.suitId - 1) < tempSize

/-- The first suit of the id has room for the name in place of its own. -/
def NameRoom (info : MsgHeroData) (suitId : Int32) (name : Bytes) : Prop :=
  ∀ suit ∈ info.suits.find? (·.suitId = suitId),
    digits suitId.toInt + 1 + (cStr name).length < suitTempSize ∧
      characterWidth info + (cStr name).length < tempSize + (cStr suit.suitName).length

/-- The request is short enough for what the hero holds. -/
def Room (asked : Option Asked) (request : ClientRequest) : Prop :=
  ∀ a ∈ asked, match request with
    | .modifySuitName suitId suitName => NameRoom a.hero.info suitId suitName
    | .modifySuit suit => SuitRoom a.hero.info suit
    | .delSuit _ => True
    | .verifyToyCDKey cdKey => a.hero.hasToy cdKey = true ∨ verifyWidth cdKey < verifySqlSize

variable {clock : Clock} {hero : DreamHero} {suits suits' : List MsgSuitData} {suit : MsgSuitData}
  {suitId : Int32} {cdKey : CdKey} {asked : Option Asked} {request : ClientRequest}

/-- The update of a key is the shorter problem. -/
theorem keyFits_iff (clock : Clock) (cdKey : CdKey) :
    KeyFits clock cdKey ↔ verifyWidth cdKey < verifySqlSize := by
  rw [KeyFits, verify_fits_iff]
  apply and_iff_left_of_imp
  intro short serverTime account
  have number := digits_uint64 account
  have time := getTime_length clock serverTime
  rw [update_fits_iff]
  simp only [updateWidth, updateSqlSize, verifyWidth, verifySqlSize] at short ⊢
  omega

theorem bounded_iff (clock : Clock) (asked : Option Asked) :
    Bounded clock asked ↔ ∀ a ∈ asked, SaveFits clock a.hero ∧
      ∀ cdKey ∈ a.sent, verifyWidth cdKey < verifySqlSize := by
  simp only [Bounded, save_fits_iff, keyFits_iff]

/-- Only the suits matter to the fit of a hero that differs in nothing else. -/
theorem fits_withSuits_iff (fits : SaveFits clock hero) (suits : List MsgSuitData) :
    SaveFits clock (withSuits hero suits) ↔
      (∀ suit ∈ suits, nameWidth suit < suitTempSize) ∧
        baseWidth hero.info + suitsWidth suits < tempSize := by
  constructor
  · intro fits
    exact ⟨fits.names, fits.character⟩
  · intro both
    exact ⟨both.1, both.2, fits.equips, fits.toys⟩

theorem otherSuits_length (suits : List MsgSuitData) (suitId : Int32) :
    (otherSuits suits suitId).length + suits.countP (·.suitId = suitId) = suits.length := by
  have both := List.length_eq_countP_add_countP (fun suit : MsgSuitData => suit.suitId = suitId)
    (l := suits)
  rw [otherSuits, ← List.countP_eq_length_filter]
  simp only [decide_not, decide_eq_true_eq] at both ⊢
  omega

/-- Each suit of the id gets the width of the new one. -/
theorem replaced_width (suits : List MsgSuitData) (suitData : MsgSuitData) :
    ((suits.map fun suit => if suit.suitId = suitData.suitId then suitData else suit).map
        entryWidth).sum =
      ((otherSuits suits suitData.suitId).map entryWidth).sum +
        suits.countP (·.suitId = suitData.suitId) * entryWidth suitData := by
  induction suits with
  | nil => simp [otherSuits]
  | cons suit rest ih =>
    rw [List.map_cons, List.map_cons, List.sum_cons, ih]
    by_cases same : suit.suitId = suitData.suitId
    · have others : otherSuits (suit :: rest) suitData.suitId =
          otherSuits rest suitData.suitId := by
        simp [otherSuits, same]
      rw [if_pos same, others, List.countP_cons_of_pos (by simpa using same), Nat.add_mul]
      omega
    · have others : otherSuits (suit :: rest) suitData.suitId =
          suit :: otherSuits rest suitData.suitId := by
        simp [otherSuits, same]
      rw [if_neg same, others, List.countP_cons_of_neg (by simpa using same), List.map_cons,
        List.sum_cons]
      omega

/-- What ModifySuit makes of the width of the suits. -/
theorem modified_width {suitData : MsgSuitData}
    (after : suitsAfter suits (.modifySuit suitData) = some suits') :
    suitsWidth suits' = ((otherSuits suits suitData.suitId).map entryWidth).sum +
      copies suits suitData.suitId * entryWidth suitData +
      ((otherSuits suits suitData.suitId).length + copies suits suitData.suitId - 1) := by
  have lengths := otherSuits_length suits suitData.suitId
  cases after
  split
  · rename_i found
    have some : 0 < suits.countP (·.suitId = suitData.suitId) := by
      simpa [List.countP_pos_iff] using found
    rw [suitsWidth, replaced_width, copies, Nat.max_eq_right some, List.length_map]
    omega
  · rename_i absent
    have none : suits.countP (·.suitId = suitData.suitId) = 0 := by
      simpa [List.countP_eq_zero] using absent
    have others : otherSuits suits suitData.suitId = suits := by
      simpa [otherSuits, List.filter_eq_self] using absent
    rw [suitsWidth, copies, none, others]
    simp

/-- The names of what ModifySuit leaves fit with the names there were if the new one does. -/
theorem modified_names {suitData : MsgSuitData}
    (names : ∀ suit ∈ suits, nameWidth suit < suitTempSize)
    (after : suitsAfter suits (.modifySuit suitData) = some suits') :
    (∀ suit ∈ suits', nameWidth suit < suitTempSize) ↔ nameWidth suitData < suitTempSize := by
  cases after
  split
  · rename_i found
    obtain ⟨old, listed, same⟩ := List.any_eq_true.mp found
    rw [List.forall_mem_map]
    constructor
    · intro all
      have new := all old listed
      rwa [if_pos (of_decide_eq_true same)] at new
    · intro short suit member
      split
      · exact short
      · exact names suit member
  · rw [List.forall_mem_append, List.forall_mem_singleton]
    exact and_iff_right names

theorem nameWidth_rename (suit : MsgSuitData) (name : Bytes) :
    nameWidth { suit with suitName := cStr name } =
      digits suit.suitId.toInt + 1 + (cStr name).length := by
  rw [nameWidth, cStr_eq_self (cStr_no_nul name)]

/-- A rename puts the new name in the place of the first suit's. -/
theorem rename_room_iff {name : Bytes} (fits : SaveFits clock hero)
    (renamed : DreamHero.renameSuit suitId (cStr name) hero.info.suits = some suits') :
    SaveFits clock (withSuits hero suits') ↔ NameRoom hero.info suitId name := by
  obtain ⟨front, suit, back, parts, rfl, first, rfl⟩ := renameSuit_some renamed
  have names := fits.names
  rw [parts, List.forall_mem_append, List.forall_mem_cons] at names
  have width : suitsWidth (front ++ { suit with suitName := cStr name } :: back) +
      (cStr suit.suitName).length = suitsWidth hero.info.suits + (cStr name).length := by
    simp only [parts, suitsWidth, List.map_append, List.map_cons, List.sum_append, List.sum_cons,
      List.length_append, List.length_cons, entryWidth, nameWidth_rename]
    simp only [nameWidth]
    omega
  rw [fits_withSuits_iff fits, List.forall_mem_append, List.forall_mem_cons, nameWidth_rename,
    NameRoom, first]
  simp only [Option.mem_def, Option.some.injEq, forall_eq', characterWidth]
  constructor
  · rintro ⟨⟨_, short, _⟩, total⟩
    exact ⟨short, by omega⟩
  · rintro ⟨short, total⟩
    exact ⟨⟨names.1, short, names.2.2⟩, by omega⟩

/-- What DelSuit leaves is no longer than before. -/
theorem erased_fits {erased : List MsgSuitData × Bool} (fits : SaveFits clock hero)
    (found : DreamHero.eraseSuits suitId hero.info.suits = some erased) :
    SaveFits clock (withSuits hero erased.1) := by
  have sub := eraseSuits_sublist found
  have sums := (sub.map entryWidth).sum_le_sum fun _ _ => Nat.zero_le _
  have lengths := sub.length_le
  have total := fits.character
  rw [fits_withSuits_iff fits]
  constructor
  · exact fun suit member => fits.names suit (sub.subset member)
  · simp only [characterWidth, suitsWidth] at total ⊢
    omega

/-- A request keeps the hero fit exactly if it has room. -/
theorem request_fits_iff {a : Asked} (fits : SaveFits clock a.hero)
    (after : suitsAfter a.hero.info.suits request = some suits) :
    SaveFits clock (withSuits a.hero suits) ∧
        (∀ cdKey ∈ asks a.hero request, verifyWidth cdKey < verifySqlSize) ↔
      Room (some a) request := by
  simp only [Room, Option.mem_def, Option.some.injEq, forall_eq']
  cases request with
  | modifySuitName suitId suitName =>
    simp only [asks, List.not_mem_nil, false_implies, implies_true, and_true]
    cases renamed : DreamHero.renameSuit suitId (cStr suitName) a.hero.info.suits with
    | none =>
      have absent : a.hero.info.suits.find? (·.suitId = suitId) = none := by
        simpa [List.find?_eq_none] using renameSuit_none.mp renamed
      rw [suitsAfter, renamed] at after
      cases after
      simp [NameRoom, absent, fits, withSuits]
    | some found =>
      rw [suitsAfter, renamed] at after
      cases after
      exact rename_room_iff fits renamed
  | modifySuit suitData =>
    simp only [asks, List.not_mem_nil, false_implies, implies_true, and_true]
    rw [fits_withSuits_iff fits, modified_names fits.names after, modified_width after, SuitRoom,
      ← Nat.add_assoc, ← Nat.add_assoc]
  | delSuit suitId =>
    obtain ⟨erased, found, rfl⟩ := Option.map_eq_some_iff.mp after
    simp [asks, erased_fits fits found]
  | verifyToyCDKey cdKey =>
    cases after
    have same : withSuits a.hero a.hero.info.suits = a.hero := rfl
    rw [same, asks]
    simp only [fits, true_and]
    by_cases held : a.hero.hasToy cdKey = true
    · simp [held]
    · simp [held, verifyWidth, cStr_eq_self (cStr_no_nul cdKey)]

/-- One request keeps every sprintf within its buffer exactly if it has room. -/
theorem bounded_step_iff (bounded : Bounded clock asked) (request : ClientRequest) :
    Bounded clock (step asked request) ↔ Room asked request := by
  rw [bounded_iff] at bounded ⊢
  cases asked with
  | none => simp [step, Room]
  | some a =>
    obtain ⟨fits, sent⟩ := bounded a rfl
    cases after : suitsAfter a.hero.info.suits request with
    | none =>
      cases request with
      | delSuit suitId => simp [step, afterRequest_eq, after, Room]
      | modifySuitName => cases after
      | modifySuit => cases after
      | verifyToyCDKey => cases after
    | some suits =>
      rw [← request_fits_iff fits after]
      simp only [step, Option.bind_some, afterRequest_eq, after, Option.map_some, Option.mem_def,
        Option.some.injEq, forall_eq', List.forall_mem_append]
      exact and_congr_right fun _ => and_iff_right sent

/-- No run of requests makes a sprintf write past its buffer exactly if the hero is short enough
    at first and every request has room for its text when it comes. -/
theorem sprintfs_bounded_iff (clock : Clock) (hero : DreamHero) (requests : List ClientRequest) :
    EveryState step (Bounded clock) (some ⟨hero, []⟩) requests ↔
      SaveFits clock hero ∧ EveryStep step Room (some ⟨hero, []⟩) requests := by
  have first : Bounded clock (some ⟨hero, []⟩) ↔ SaveFits clock hero := by
    simp [bounded_iff]
  have run (start : Bounded clock (some ⟨hero, []⟩)) :
      EveryState step (Bounded clock) (some ⟨hero, []⟩) requests ↔
        EveryStep step Room (some ⟨hero, []⟩) requests := by
    apply everyState_iff_everyStep (Bounded clock) (fun _ => True)
    · exact fun _ bounded => bounded
    · exact fun asked request _ bounded room => (bounded_step_iff bounded request).mpr room
    · exact fun asked request _ bounded next => (bounded_step_iff bounded request).mp next
    · exact start
    · exact fun _ _ => trivial
  constructor
  · intro all
    have start := everyState_first all
    exact ⟨first.mp start, (run start).mp all⟩
  · rintro ⟨fits, steps⟩
    exact (run (first.mpr fits)).mpr steps

/-- A suit's name of 300 bytes is printed into 256 of the stack, and a key of 300 bytes too. -/
theorem long_texts_overrun :
    let clock : Clock := ⟨0, fun _ => ⟨0, 0, 0, 0, 0, 0⟩⟩
    let hero := DreamHero.new 0 1 .config
    let long := List.replicate 300 97
    SaveFits clock hero ∧
      ¬ EveryState step (Bounded clock) (some ⟨hero, []⟩) [.modifySuit ⟨1, long, []⟩] ∧
      ¬ EveryState step (Bounded clock) (some ⟨hero, []⟩) [.verifyToyCDKey long] := by
  intro clock hero long
  refine ⟨⟨by decide, by decide, by decide, by decide⟩, fun all => ?_, fun all => ?_⟩
  · have last := (bounded_iff clock _).mp (everyState_last all) _ rfl
    have short := last.1.names ⟨1, long, []⟩ List.mem_cons_self
    exact absurd short (by decide +kernel)
  · have last := (bounded_iff clock _).mp (everyState_last all) _ rfl
    have short := last.2 (cStr long) (by decide +kernel)
    exact absurd short (by decide +kernel)

end SprintfBounds
