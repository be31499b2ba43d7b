import DreamHeroes.GameHero

/- DelSuit erases from the suits while it goes through them: by position, as the iterator does,
   and what the client is told at the end. -/
namespace DeletedSuits

open GameHero SuitText

/-- The loop of DelSuit with the position of its iterator. erase moves the later suits into the
place of the erased one, where the iterator stays until it++. The loop has no result once the
iterator is past the end. -/
def delLoop (suitId : Int32) (suits : List MsgSuitData) (it : Nat) (erased : Bool) :
    Option (List MsgSuitData × Bool) :=
  if it = suits.length then some (suits, erased)
  else if inside : it < suits.length then
    if suits[it].suitId = suitId then delLoop suitId (suits.eraseIdx it) (it + 1) true
    else delLoop suitId suits (it + 1) erased
  else none
termination_by suits.length - it
decreasing_by
  · rw [List.length_eraseIdx_of_lt inside]
    omega
  · omega

/-- The iterator stays inside, what is left are the suits of other ids, and the client is told
whether there was one of the id. -/
def Deleted (hero : DreamHero) (suitId : Int32) : Prop :=
  hero.delSuit suitId = some
    ({ hero with info := { hero.info with
        suits := hero.info.suits.filter fun suit => suit.suitId ≠ suitId } },
      .delSuitACK suitId
        (if ∃ suit ∈ hero.info.suits, suit.suitId = suitId then .noError
          else .serverErrorNoSuitId))

/-- Behind each suit of the id there is one of another id. -/
def Spaced (suitId : Int32) : List MsgSuitData → Prop
  | [] => True
  | [suit] => suit.suitId ≠ suitId
  | suit :: next :: rest =>
      (suit.suitId = suitId → next.suitId ≠ suitId) ∧ Spaced suitId (next :: rest)

variable {suitId : Int32} {suits : List MsgSuitData} {erased : List MsgSuitData × Bool}

theorem delLoop_end (front : List MsgSuitData) (flag : Bool) :
    delLoop suitId front front.length flag = some (front, flag) := by
  rw [delLoop, if_pos rfl]

theorem delLoop_past {it : Nat} (past : suits.length < it) (flag : Bool) :
    delLoop suitId suits it flag = none := by
  rw [delLoop, if_neg (by omega), dif_neg (by omega)]

theorem delLoop_same {suit : MsgSuitData} (same : suit.suitId = suitId)
    (front rest : List MsgSuitData) (flag : Bool) :
    delLoop suitId (front ++ suit :: rest) front.length flag =
      delLoop suitId (front ++ rest) (front.length + 1) true := by
  have erased : (front ++ suit :: rest).eraseIdx front.length = front ++ rest := by
    rw [List.eraseIdx_append_of_length_le (Nat.le_refl _), Nat.sub_self, List.eraseIdx_cons_zero]
  rw [delLoop, if_neg (by simp), dif_pos (by simp)]
  simp [same, erased]

theorem delLoop_other {suit : MsgSuitData} (other : suit.suitId ≠ suitId)
    (front rest : List MsgSuitData) (flag : Bool) :
    delLoop suitId (front ++ suit :: rest) front.length flag =
      delLoop suitId (front ++ suit :: rest) (front.length + 1) flag := by
  rw [delLoop, if_neg (by simp), dif_pos (by simp)]
  simp [other]

/-- The loop by position does what the recursion over the suits says. -/
theorem delLoop_eq (front : List MsgSuitData) (flag : Bool) :
    delLoop suitId (front ++ suits) front.length flag =
      (DreamHero.eraseSuits suitId suits).map fun later =>
        (front ++ later.1, flag || later.2) := by
  induction suits using DreamHero.eraseSuits.induct suitId generalizing front flag with
  | case1 => simp [delLoop_end, DreamHero.eraseSuits]
  | case2 suit same =>
    rw [delLoop_same same, delLoop_past (by simp), DreamHero.eraseSuits, if_pos same]
    rfl
  | case3 suit other =>
    have ended := @delLoop_end suitId (front ++ [suit]) flag
    rw [List.length_append, List.length_singleton] at ended
    rw [delLoop_other other, ended, DreamHero.eraseSuits, if_neg other]
    simp
  | case4 suit next rest same ih =>
    have moved := ih (front ++ [next]) true
    simp only [List.append_assoc, List.singleton_append, List.length_append,
      List.length_singleton] at moved
    rw [delLoop_same same, moved, DreamHero.eraseSuits, if_pos same, Option.map_map]
    simp [Function.comp_def]
  | case5 suit next rest other ih =>
    have moved := ih (front ++ [suit]) flag
    simp only [List.append_assoc, List.singleton_append, List.length_append,
      List.length_singleton] at moved
    rw [delLoop_other other, moved, DreamHero.eraseSuits, if_neg other, Option.map_map]
    simp [Function.comp_def]

/-- Whether a suit was erased is right whenever the loop comes to its end. -/
theorem erased_flag (found : DreamHero.eraseSuits suitId suits = some erased) :
    erased.2 = true ↔ ∃ suit ∈ suits, suit.suitId = suitId := by
  induction suits using DreamHero.eraseSuits.induct suitId generalizing erased with
  | case1 =>
    cases found
    simp
  | case2 suit same => simp [DreamHero.eraseSuits, same] at found
  | case3 suit other =>
    rw [DreamHero.eraseSuits, if_neg other] at found
    cases found
    simp [other]
  | case4 suit next rest same ih =>
    rw [DreamHero.eraseSuits, if_pos same] at found
    obtain ⟨later, _, rfl⟩ := Option.map_eq_some_iff.mp found
    exact iff_of_true rfl ⟨suit, List.mem_cons_self, same⟩
  | case5 suit next rest other ih =>
    rw [DreamHero.eraseSuits, if_neg other] at found
    obtain ⟨later, inside, rfl⟩ := Option.map_eq_some_iff.mp found
    rw [ih inside]
    simp [other]

theorem spaced_other {suit : MsgSuitData} (other : suit.suitId ≠ suitId)
    (rest : List MsgSuitData) : Spaced suitId (suit :: rest) ↔ Spaced suitId rest := by
  cases rest with
  | nil => simp [Spaced, other]
  | cons next rest => simp [Spaced, other]

/-- What is left is right exactly if no two suits of the id follow each other and none is last. -/
theorem erased_filter_iff : (DreamHero.eraseSuits suitId suits).map (·.1) =
      some (suits.filter fun suit => suit.suitId ≠ suitId) ↔ Spaced suitId suits := by
  induction suits using DreamHero.eraseSuits.induct suitId with
  | case1 => simp [DreamHero.eraseSuits, Spaced]
  | case2 suit same => simp [DreamHero.eraseSuits, Spaced, same]
  | case3 suit other => simp [DreamHero.eraseSuits, Spaced, other]
  | case4 suit next rest same ih =>
    rw [DreamHero.eraseSuits, if_pos same, Option.map_map]
    by_cases again : next.suitId = suitId
    · -- The suit that moved up is skipped, although it has the id.
      refine iff_of_false ?_ (by simp [Spaced, same, again])
      intro left
      obtain ⟨later, _, kept⟩ := Option.map_eq_some_iff.mp left
      have stays : next ∈ (suit :: next :: rest).filter fun suit => suit.suitId ≠ suitId := by
        rw [← kept]
        exact List.mem_cons_self
      simp [again] at stays
    · have spaced : Spaced suitId (suit :: next :: rest) ↔ Spaced suitId rest := by
        simp [Spaced, same, again, spaced_other again]
      rw [spaced, ← ih]
      simp [same, again, Function.comp_def]
  | case5 suit next rest other ih =>
    rw [DreamHero.eraseSuits, if_neg other, Option.map_map]
    simp [Spaced, other, ← ih]

/-- DelSuit does what it is for exactly if behind each suit of the id there is one of another. -/
theorem deleted_iff (hero : DreamHero) (suitId : Int32) :
    Deleted hero suitId ↔ Spaced suitId hero.info.suits := by
  rw [← erased_filter_iff, Deleted, DreamHero.delSuit]
  cases found : DreamHero.eraseSuits suitId hero.info.suits with
  | none => simp
  | some erased =>
    have told : (if erased.2 = true then HeroErrorCode.noError else .serverErrorNoSuitId) =
        if ∃ suit ∈ hero.info.suits, suit.suitId = suitId then .noError
          else .serverErrorNoSuitId := by
      simp only [erased_flag found]
    simp only [Option.map_some, Option.some.injEq, Prod.mk.injEq, told, and_true]
    constructor
    · intro same
      exact congrArg (fun hero : DreamHero => hero.info.suits) same
    · intro same
      rw [same]

def suit (suitId : Int32) : MsgSuitData := ⟨suitId, [], []⟩

/-- When the last suit is erased the iterator goes past the end. -/
theorem last_suit_not_deleted :
    ¬ Deleted { DreamHero.new 0 1 .config with
      info := ⟨1, 1, DreamHero.testName, 0, 0, 0, [suit 7, suit 3]⟩ } 3 := by
  intro deleted
  cases deleted

end DeletedSuits
