import ModuleLint.Proofs.Text.EditScripts

/-!
# The nearest candidate within a limit

The search for the nearest candidate keeps one word, the bound: one more than the limit until a candidate is found, and
the distance of the best candidate from then on. `Searched` says what is known once some candidates have been
considered. Each further candidate keeps it (`Searched.consider`), and so does the whole search.

The bound before the first candidate is computed with words. For the largest word there is no word above it, and the
search starts with the smallest one instead: nothing is nearer than that, but it is within the limit.
-/

set_option autoImplicit false

namespace ModuleLint.Text

/-- Whether the characters of a text can be counted with a signed word, like those of every text in memory. -/
def FitsMemory (s : String) : Prop := s.length ≤ Int64.maxValue.toInt

/-- The largest word as a number. -/
theorem toInt_maxValue : Int64.maxValue.toInt = 9223372036854775807 := rfl

/-- The first of the candidates at the least distance from the target. -/
def IsFirstNearest (target : String) (candidates : List String) (best : String) : Prop :=
  ∃ before after, candidates = before ++ best :: after
    ∧ (∀ c ∈ before, distance target best < distance target c)
    ∧ ∀ c ∈ after, distance target best ≤ distance target c

/-- The distance is at most the length of the longer text. -/
theorem distance_le_max_length (a b : String) : distance a b ≤ max a.length b.length := by
  obtain ⟨n, hn, hal⟩ := Aligns.exists_le_max a.toList b.toList
  simp only [String.length_toList] at hn
  exact Nat.le_trans (distance_le_of_aligns hal) hn

/-- The distance of texts in memory is a word. -/
theorem toInt_distance {a b : String} (ha : FitsMemory a) (hb : FitsMemory b) :
    (Int64.ofNat (distance a b)).toInt = distance a b := by
  apply Int64.toInt_ofNat_of_lt
  have hle := distance_le_max_length a b
  unfold FitsMemory at ha hb
  rw [toInt_maxValue] at ha hb
  omega

/-- A limit below the largest word can be raised by one. -/
theorem toInt_add_one {limit : Int64} (h : limit ≠ Int64.maxValue) : (limit + 1).toInt = limit.toInt + 1 := by
  have hne : limit.toInt ≠ Int64.maxValue.toInt := fun heq => h (Int64.toInt_inj.mp heq)
  rw [toInt_maxValue] at hne
  have hlow := limit.le_toInt
  have hhigh := limit.toInt_lt
  rw [Int64.toInt_add, Int64.toInt_one]
  apply Int.bmod_eq_of_le <;> omega

namespace IsFirstNearest

variable {target best c : String} {seen : List String}

/-- The first of the nearest is one of the texts seen. -/
theorem mem (h : IsFirstNearest target seen best) : best ∈ seen := by
  obtain ⟨before, after, rfl, -, -⟩ := h
  simp

/-- No text seen is nearer. -/
theorem distance_le (h : IsFirstNearest target seen best) (hc : c ∈ seen) :
    distance target best ≤ distance target c := by
  obtain ⟨before, after, rfl, hbefore, hafter⟩ := h
  rcases List.mem_append.mp hc with hc | hc
  · exact Nat.le_of_lt (hbefore c hc)
  · rcases List.mem_cons.mp hc with rfl | hc
    · exact Nat.le_refl _
    · exact hafter c hc

/-- A candidate that is nearer than all before it is the first nearest one. -/
theorem concat_nearer (h : ∀ d ∈ seen, distance target c < distance target d) :
    IsFirstNearest target (seen ++ [c]) c :=
  ⟨seen, [], rfl, h, by simp⟩

/-- A later candidate has to be nearer to count. -/
theorem concat_of_le (h : IsFirstNearest target seen best) (hle : distance target best ≤ distance target c) :
    IsFirstNearest target (seen ++ [c]) best := by
  obtain ⟨before, after, rfl, hbefore, hafter⟩ := h
  refine ⟨before, after ++ [c], by simp, hbefore, fun d hd => ?_⟩
  rcases List.mem_append.mp hd with hd | hd
  · exact hafter d hd
  · rw [List.mem_singleton.mp hd]
    exact hle

end IsFirstNearest

/-- What is known once the candidates `seen` have been considered. -/
inductive Searched (target : String) (limit : Int64) (seen : List String) : Nearest → Prop
  | none (h : ∀ c ∈ seen, limit.toInt < distance target c) :
      Searched target limit seen { best := "", bound := limit + 1 }
  | found {best : String} (h : IsFirstNearest target seen best) (hlimit : distance target best ≤ limit.toInt) :
      Searched target limit seen { best := best, bound := Int64.ofNat (distance target best) }

namespace Searched

variable {target : String} {limit : Int64} {seen : List String} {n : Nearest}

/-- One more candidate. It takes the place of the best one only if it is nearer, so ties go to the earlier one. -/
theorem consider {c : String} (h : Searched target limit seen n) (hlimit : limit ≠ Int64.maxValue)
    (htarget : FitsMemory target) (hseen : ∀ d ∈ seen, FitsMemory d) (hc : FitsMemory c) :
    Searched target limit (seen ++ [c]) (n.consider target c) := by
  have hword := toInt_distance htarget hc
  unfold Nearest.consider
  cases h with
  | none h =>
    simp only [Int64.lt_iff_toInt_lt, hword, toInt_add_one hlimit]
    split
    · rename_i hlt
      have hle : distance target c ≤ limit.toInt := by omega
      refine .found (.concat_nearer fun d hd => ?_) hle
      have := h d hd
      omega
    · rename_i hge
      refine .none fun d hd => ?_
      rcases List.mem_append.mp hd with hd | hd
      · exact h d hd
      · rw [List.mem_singleton.mp hd]
        omega
  | @found best h hle =>
    simp only [Int64.lt_iff_toInt_lt, hword, toInt_distance htarget (hseen best h.mem)]
    split
    · rename_i hlt
      refine .found (.concat_nearer fun d hd => ?_) (by omega)
      have := h.distance_le hd
      omega
    · rename_i hge
      exact .found (h.concat_of_le (by omega)) hle

/-- All candidates have been searched once they are considered, by induction over them. -/
theorem foldl_consider (h : Searched target limit seen n) (hlimit : limit ≠ Int64.maxValue)
    (htarget : FitsMemory target) {candidates : List String}
    (hcandidates : ∀ c ∈ seen ++ candidates, FitsMemory c) :
    Searched target limit (seen ++ candidates) (candidates.foldl (Nearest.consider target) n) := by
  induction candidates generalizing seen n with
  | nil => simpa using h
  | cons c rest ih =>
    have hstep := h.consider hlimit htarget (fun d hd => hcandidates d (by simp [hd]))
      (hcandidates c (by simp))
    simpa using ih hstep (by simpa using hcandidates)

end Searched

section Closest

variable {target : String} {candidates : List String} {limit : Int64}

/-- The search ends with what is known once all candidates have been considered. -/
theorem searched_closest (hlimit : limit ≠ Int64.maxValue) (htarget : FitsMemory target)
    (hcandidates : ∀ c ∈ candidates, FitsMemory c) :
    ∃ n, Searched target limit candidates n
      ∧ closest target candidates limit = (n.best, decide (n.bound ≤ limit)) := by
  have hstart : Searched target limit [] { best := "", bound := limit + 1 } := .none (by simp)
  exact ⟨_, hstart.foldl_consider hlimit htarget hcandidates, rfl⟩

/-- Below the largest limit there are two outcomes: all candidates are out of reach, or the first nearest one is the
answer. -/
theorem closest_cases (hlimit : limit ≠ Int64.maxValue) (htarget : FitsMemory target)
    (hcandidates : ∀ c ∈ candidates, FitsMemory c) :
    (closest target candidates limit = ("", false) ∧ ∀ c ∈ candidates, limit.toInt < distance target c)
    ∨ ∃ best, closest target candidates limit = (best, true)
      ∧ IsFirstNearest target candidates best ∧ distance target best ≤ limit.toInt := by
  obtain ⟨n, hsearched, hclosest⟩ := searched_closest hlimit htarget hcandidates
  cases hsearched with
  | none h =>
    left
    have hout : ¬ limit + 1 ≤ limit := by
      rw [Int64.le_iff_toInt_le, toInt_add_one hlimit]
      omega
    exact ⟨by rw [hclosest, decide_eq_false hout], h⟩
  | @found best h hle =>
    right
    have hin : Int64.ofNat (distance target best) ≤ limit := by
      rw [Int64.le_iff_toInt_le, toInt_distance htarget (hcandidates best h.mem)]
      exact hle
    exact ⟨best, by rw [hclosest, decide_eq_true hin], h, hle⟩

/-- From the largest limit the search starts at the smallest word, and no candidate is considered near. -/
theorem closest_maxValue (htarget : FitsMemory target) (hcandidates : ∀ c ∈ candidates, FitsMemory c) :
    closest target candidates Int64.maxValue = ("", true) := by
  have hkeep : ∀ c ∈ candidates, Nearest.consider target { best := "", bound := Int64.maxValue + 1 } c
      = { best := "", bound := Int64.maxValue + 1 } := by
    intro c hc
    have hword := toInt_distance htarget (hcandidates c hc)
    -- one more than the largest word is the smallest one, and distances are not negative
    have hnot : ¬ Int64.ofNat (distance target c) < Int64.maxValue + 1 := by
      have hbound : (Int64.maxValue + 1).toInt < 0 := by decide
      rw [Int64.lt_iff_toInt_lt, hword]
      omega
    exact if_neg hnot
  have hfold : candidates.foldl (Nearest.consider target) { best := "", bound := Int64.maxValue + 1 }
      = { best := "", bound := Int64.maxValue + 1 } := by
    induction candidates with
    | nil => rfl
    | cons c rest ih =>
      rw [List.foldl_cons, hkeep c (by simp)]
      exact ih (fun d hd => hcandidates d (by simp [hd])) (fun d hd => hkeep d (by simp [hd]))
  unfold closest
  rw [hfold]
  decide

end Closest

/-- For every limit but the largest word, a candidate is found exactly if one is within the limit. It is then the first
nearest one, and else no candidate is named. For the largest word the outcome does not depend on the candidates: it is
said that one was found, and none is named. -/
theorem closest_is_first_nearest {target : String} {candidates : List String} (limit : Int64)
    (htarget : FitsMemory target) (hcandidates : ∀ c ∈ candidates, FitsMemory c) :
    (limit ≠ Int64.maxValue →
      ((closest target candidates limit).2 = true ↔ ∃ c ∈ candidates, distance target c ≤ limit.toInt)
      ∧ ((closest target candidates limit).2 = true →
          IsFirstNearest target candidates (closest target candidates limit).1)
      ∧ ((closest target candidates limit).2 = false → (closest target candidates limit).1 = ""))
    ∧ (limit = Int64.maxValue → closest target candidates limit = ("", true)) := by
  refine ⟨fun hlimit => ?_, fun hlimit => hlimit ▸ closest_maxValue htarget hcandidates⟩
  rcases closest_cases hlimit htarget hcandidates with ⟨heq, hfar⟩ | ⟨best, heq, hbest, hle⟩
  · rw [heq]
    refine ⟨⟨by simp, ?_⟩, by simp, fun _ => rfl⟩
    rintro ⟨c, hc, hnear⟩
    have := hfar c hc
    omega
  · rw [heq]
    exact ⟨⟨fun _ => ⟨best, hbest.mem, hle⟩, fun _ => rfl⟩, fun _ => hbest, by simp⟩

/-- Two candidates are two edits away, and the earlier one is named. -/
theorem closest_is_first_nearest_tie :
    (2 : Int64) ≠ Int64.maxValue ∧ FitsMemory "VAR-00" ∧ (∀ c ∈ ["FUN-01", "VAR-11", "VAR-22"], FitsMemory c)
    ∧ closest "VAR-00" ["FUN-01", "VAR-11", "VAR-22"] 2 = ("VAR-11", true)
    ∧ IsFirstNearest "VAR-00" ["FUN-01", "VAR-11", "VAR-22"] "VAR-11" := by
  have hlimit : (2 : Int64) ≠ Int64.maxValue := by decide
  have htarget : FitsMemory "VAR-00" := by unfold FitsMemory; decide
  have hcandidates : ∀ c ∈ ["FUN-01", "VAR-11", "VAR-22"], FitsMemory c := by unfold FitsMemory; decide
  have hclosest : closest "VAR-00" ["FUN-01", "VAR-11", "VAR-22"] 2 = ("VAR-11", true) := by decide +kernel
  have hbest := ((closest_is_first_nearest 2 htarget hcandidates).1 hlimit).2.1
  rw [hclosest] at hbest
  exact ⟨hlimit, htarget, hcandidates, hclosest, hbest rfl⟩

/-- With the largest limit a candidate equal to the target is not named, and one is said to be found among none. -/
theorem largest_limit_names_nothing :
    FitsMemory "VAR-01" ∧ closest "VAR-01" ["VAR-01"] Int64.maxValue = ("", true)
    ∧ ¬ IsFirstNearest "VAR-01" ["VAR-01"] ""
    ∧ closest "VAR-01" [] Int64.maxValue = ("", true)
    ∧ ¬ ∃ c ∈ ([] : List String), distance "VAR-01" c ≤ Int64.maxValue.toInt := by
  refine ⟨by unfold FitsMemory; decide, by decide +kernel, fun h => ?_, by decide +kernel, by simp⟩
  have hmem := h.mem
  revert hmem
  decide

end ModuleLint.Text
