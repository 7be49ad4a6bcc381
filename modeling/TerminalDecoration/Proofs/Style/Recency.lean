/-
# Recency in the style cache

Over a run of look-ups the cache keeps the names that were used last, and nothing else of the run. A
name is used when it is looked up and accepted, whether it was kept or not; refused names are no
use. This module states which names those are by the list of all look-ups alone, and shows that one
look-up changes the cache just as it changes that list. What the cache kept before the run only
fills the places that the run leaves free.
-/

import Mathlib.Data.List.Dedup
import Mathlib.Data.List.Induction
import TerminalDecoration.Proofs.Style.Cache

namespace TerminalDecoration.Style

/-- Whether a name is read as a style. -/
def isAccepted (name : List Char) : Bool := (ofName name).isOk

theorem isAccepted_of_ofName_eq_ok {name : List Char} {style : Style}
    (h : ofName name = .ok style) : isAccepted name = true := by
  rw [isAccepted, h]
  rfl

theorem isAccepted_of_ofName_eq_error {name : List Char} {e : NameError}
    (h : ofName name = .error e) : isAccepted name = false := by
  rw [isAccepted, h]
  rfl

/-! ## The names used last -/

/-- The accepted ones among these names, each once, the one used last first. -/
def recentlyUsed (names : List (List Char)) : List (List Char) :=
  (names.filter isAccepted).dedup.reverse

theorem mem_recentlyUsed {names : List (List Char)} {name : List Char} :
    name ∈ recentlyUsed names ↔ name ∈ names ∧ isAccepted name = true := by
  simp [recentlyUsed]

theorem nodup_recentlyUsed (names : List (List Char)) : (recentlyUsed names).Nodup :=
  List.nodup_reverse.2 (List.nodup_dedup _)

theorem dedup_concat {α : Type} [DecidableEq α] (xs : List α) (a : α) :
    (xs ++ [a]).dedup = (xs.dedup.filter fun x => x ≠ a) ++ [a] := by
  induction xs with
  | nil => simp
  | cons x xs ih =>
      by_cases hmem : x ∈ xs
      · rw [List.cons_append, List.dedup_cons_of_mem (List.mem_append_left [a] hmem), ih,
          List.dedup_cons_of_mem hmem]
      · by_cases hx : x = a
        · subst hx
          rw [List.cons_append, List.dedup_cons_of_mem (by simp), ih,
            List.dedup_cons_of_notMem hmem, List.filter_cons_of_neg (by simp)]
        · rw [List.cons_append, List.dedup_cons_of_notMem (by simp [hmem, hx]), ih,
            List.dedup_cons_of_notMem hmem, List.filter_cons_of_pos (by simpa using hx),
            List.cons_append]

theorem recentlyUsed_concat_of_accepted (names : List (List Char)) {name : List Char}
    (h : isAccepted name = true) :
    recentlyUsed (names ++ [name]) =
      name :: (recentlyUsed names).filter fun other => other ≠ name := by
  simp only [recentlyUsed, List.filter_append, List.filter_cons_of_pos h, List.filter_nil,
    dedup_concat, List.reverse_append, List.reverse_singleton, List.singleton_append,
    List.filter_reverse]

theorem recentlyUsed_concat_of_refused (names : List (List Char)) {name : List Char}
    (h : isAccepted name = false) : recentlyUsed (names ++ [name]) = recentlyUsed names := by
  simp [recentlyUsed, List.filter_append, h]

/-- Before a name stand the names used since its last use. -/
theorem recentlyUsed_append_cons (earlier : List (List Char)) {name : List Char}
    {since : List (List Char)} (haccepted : isAccepted name = true) (hsince : name ∉ since) :
    ∃ older, recentlyUsed (earlier ++ name :: since) = recentlyUsed since ++ name :: older := by
  have hnot : name ∉ since.filter isAccepted := fun h => hsince (List.mem_filter.1 h).1
  obtain ⟨older, holder⟩ : (name :: since.filter isAccepted).dedup <:+
      ((earlier ++ name :: since).filter isAccepted).dedup := by
    rw [List.filter_append, List.filter_cons_of_pos haccepted, List.dedup_append]
    exact List.suffix_union_right _ _
  refine ⟨older.reverse, ?_⟩
  rw [recentlyUsed, ← holder, List.dedup_cons_of_notMem hnot, recentlyUsed]
  simp

/-- The last use of a name that occurs. -/
theorem exists_last_of_mem {α : Type} {a : α} {xs : List α} (h : a ∈ xs) :
    ∃ earlier since, xs = earlier ++ a :: since ∧ a ∉ since := by
  obtain ⟨since, earlier, hxs, hsince⟩ := List.eq_append_cons_of_mem (List.mem_reverse.2 h)
  refine ⟨earlier.reverse, since.reverse, ?_, by simpa using hsince⟩
  rw [← List.reverse_reverse xs, hxs]
  simp

/-- A name is among the `k` names used last when fewer than `k` names were used since. -/
theorem mem_take_recentlyUsed_iff {names : List (List Char)} {name : List Char} {k : Nat} :
    name ∈ (recentlyUsed names).take k ↔
      isAccepted name = true ∧ ∃ earlier since, names = earlier ++ name :: since ∧
        name ∉ since ∧ (recentlyUsed since).length < k := by
  constructor
  · intro h
    obtain ⟨hmem, haccepted⟩ := mem_recentlyUsed.1 (List.mem_of_mem_take h)
    obtain ⟨earlier, since, rfl, hsince⟩ := exists_last_of_mem hmem
    refine ⟨haccepted, earlier, since, rfl, hsince, ?_⟩
    obtain ⟨older, hrecent⟩ := recentlyUsed_append_cons earlier haccepted hsince
    by_contra hfar
    rw [hrecent, List.take_append_of_le_length (Nat.le_of_not_lt hfar)] at h
    exact hsince (mem_recentlyUsed.1 (List.mem_of_mem_take h)).1
  · rintro ⟨haccepted, earlier, since, rfl, hsince, hnear⟩
    obtain ⟨older, hrecent⟩ := recentlyUsed_append_cons earlier haccepted hsince
    rw [hrecent, List.take_append, List.take_cons (Nat.sub_pos_of_lt hnear)]
    exact List.mem_append_right _ List.mem_cons_self

/-! ## One look-up -/

/-- If one value is taken out of a list and `k` values are kept, only the first `k + 1` matter. -/
theorem take_filter_take_succ {α : Type} [DecidableEq α] {xs : List α} (hxs : xs.Nodup) (a : α)
    (k : Nat) :
    ((xs.take (k + 1)).filter fun x => x ≠ a).take k = (xs.filter fun x => x ≠ a).take k := by
  induction xs generalizing k with
  | nil => rfl
  | cons x xs ih =>
      obtain ⟨hx, hxs⟩ := List.nodup_cons.1 hxs
      by_cases hxa : x = a
      · subst hxa
        have hrest : ∀ y ∈ xs, decide (y ≠ x) = true := by
          intro y hy
          exact decide_eq_true fun h => hx (h ▸ hy)
        have htake : ∀ y ∈ xs.take k, decide (y ≠ x) = true := fun y hy =>
          hrest y (List.mem_of_mem_take hy)
        rw [List.take_succ_cons, List.filter_cons_of_neg (by simp),
          List.filter_cons_of_neg (by simp), List.filter_eq_self.2 htake,
          List.filter_eq_self.2 hrest, List.take_take, Nat.min_self]
      · rw [List.take_succ_cons, List.filter_cons_of_pos (by simpa using hxa),
          List.filter_cons_of_pos (by simpa using hxa)]
        cases k with
        | zero => rfl
        | succ k => rw [List.take_succ_cons, List.take_succ_cons, ih hxs]

/-- The names of a cache after a look-up of a name that it keeps only if it is accepted. -/
theorem names_lookup {cache : Cache} {name : List Char}
    (hkept : name ∈ cache.names → isAccepted name = true) :
    (lookup cache name).cache.names =
      if isAccepted name then
        (name :: cache.names.filter fun other => other ≠ name).take Cache.capacity
      else cache.names := by
  cases hfind : cache.find? name with
  | some style =>
      have hmem : name ∈ cache.names := by
        by_contra hnot
        rw [Cache.find?_eq_none_iff.2 hnot] at hfind
        cases hfind
      rw [lookup_of_find?_eq_some hfind, if_pos (hkept hmem), Cache.names_use]
  | none =>
      cases hread : ofName name with
      | ok style =>
          rw [lookup_of_accepted hfind hread, if_pos (isAccepted_of_ofName_eq_ok hread),
            Cache.names_use]
      | error e =>
          rw [lookup_of_refused hfind hread, isAccepted_of_ofName_eq_error hread]
          rfl

/-! ## A run of look-ups -/

/-- After a run the names used last in it come first, and the front of what was kept before fills
the places that are left. -/
def Cache.IsAfterRun (cache start : Cache) (run : List (List Char)) : Prop :=
  ∃ free, cache.names = (recentlyUsed run).take Cache.capacity ++ start.names.take free

theorem Cache.isAfterRun_nil (start : Cache) : start.IsAfterRun start [] :=
  ⟨start.names.length, by simp [recentlyUsed]⟩

namespace Cache.IsAfterRun

variable {cache start : Cache} {run : List (List Char)} {name : List Char}

/-- A name that was not kept before is kept when it is one of those used last. -/
theorem mem_names_iff (h : cache.IsAfterRun start run) (hforeign : name ∉ start.names) :
    name ∈ cache.names ↔ name ∈ (recentlyUsed run).take Cache.capacity := by
  obtain ⟨free, hnames⟩ := h
  rw [hnames, List.mem_append]
  exact or_iff_left fun hmem => hforeign (List.mem_of_mem_take hmem)

theorem isAccepted_of_mem_names (h : cache.IsAfterRun start run)
    (hforeign : name ∉ start.names) (hmem : name ∈ cache.names) : isAccepted name = true :=
  (mem_recentlyUsed.1 (List.mem_of_mem_take ((h.mem_names_iff hforeign).1 hmem))).2

/-- One look-up more makes the run one name longer. -/
theorem lookup (h : cache.IsAfterRun start run) (hforeign : name ∉ start.names) :
    (lookup cache name).cache.IsAfterRun start (run ++ [name]) := by
  have hlookup := names_lookup (h.isAccepted_of_mem_names hforeign)
  obtain ⟨free, hnames⟩ := h
  cases haccepted : isAccepted name with
  | false =>
      rw [haccepted] at hlookup
      exact ⟨free, by rw [hlookup, recentlyUsed_concat_of_refused run haccepted, ← hnames]; rfl⟩
  | true =>
      have hold : ((start.names.take free).filter fun other => other ≠ name) =
          start.names.take free := by
        refine List.filter_eq_self.2 fun other hother => decide_eq_true ?_
        rintro rfl
        exact hforeign (List.mem_of_mem_take hother)
      have hrun : (name :: ((recentlyUsed run).take Cache.capacity).filter
            fun other => other ≠ name).take Cache.capacity =
          (recentlyUsed (run ++ [name])).take Cache.capacity := by
        rw [recentlyUsed_concat_of_accepted run haccepted]
        exact congrArg (name :: ·) (take_filter_take_succ (nodup_recentlyUsed run) name 255)
      rw [haccepted, if_pos rfl, hnames, List.filter_append, hold, ← List.cons_append,
        List.take_append, hrun, List.take_take] at hlookup
      exact ⟨_, hlookup⟩

end Cache.IsAfterRun

/-- A run of look-ups of names that the cache does not keep before. -/
theorem isAfterRun_afterLookups {start : Cache} {run : List (List Char)}
    (hforeign : ∀ name ∈ run, name ∉ start.names) :
    (start.afterLookups run).IsAfterRun start run := by
  induction run using List.reverseRecOn with
  | nil => exact start.isAfterRun_nil
  | append_singleton run name ih =>
      rw [Cache.afterLookups_concat]
      refine (ih fun other hother => hforeign other ?_).lookup (hforeign name ?_)
      · exact List.mem_append_left _ hother
      · exact List.mem_append_right _ (List.mem_singleton_self name)

/-- The cache is one of the least recently used kind. In a run of look-ups of names that it does not
keep at the start, a look-up is answered without reading the name exactly if the name is accepted,
was looked up before, and fewer than 256 other accepted names were used since. After the look-up it
keeps of the whole run the 256 names used last, in the order of their last use; a refused name is
always read and changes nothing. -/
theorem lookup_leastRecentlyUsed (start : Cache) (before : List (List Char)) (name : List Char)
    (after : List (List Char))
    (hforeign : ∀ other ∈ before ++ name :: after, other ∉ start.names) :
    (Diagnostic.parsing name ∉ (lookup (start.afterLookups before) name).reports ↔
      isAccepted name = true ∧ ∃ earlier since, before = earlier ++ name :: since ∧
        name ∉ since ∧ (recentlyUsed since).length < 256) ∧
    ((lookup (start.afterLookups before) name).cache.names.filter
        fun kept => kept ∈ before ++ name :: after) =
      (recentlyUsed (before ++ [name])).take 256 ∧
    (isAccepted name = false →
      Diagnostic.parsing name ∈ (lookup (start.afterLookups before) name).reports ∧
        (lookup (start.afterLookups before) name).cache = start.afterLookups before) := by
  have hforeignBefore : ∀ other ∈ before, other ∉ start.names := fun other hother =>
    hforeign other (List.mem_append_left _ hother)
  have hforeignName : name ∉ start.names := hforeign name (by simp)
  have hbefore := isAfterRun_afterLookups hforeignBefore
  have hmiss : isAccepted name = false → name ∉ (start.afterLookups before).names := by
    intro hrefused hmem
    rw [hbefore.isAccepted_of_mem_names hforeignName hmem] at hrefused
    cases hrefused
  refine ⟨?answered, ?kept, ?refused⟩
  case answered =>
    rw [parsing_mem_reports_iff, not_not, hbefore.mem_names_iff hforeignName]
    exact mem_take_recentlyUsed_iff
  case kept =>
    obtain ⟨free, hnames⟩ := hbefore.lookup hforeignName
    rw [hnames, List.filter_append, List.filter_eq_self.2, List.filter_eq_nil_iff.2,
      List.append_nil]
    · rfl
    · intro other hother hrun
      exact hforeign other (of_decide_eq_true hrun) (List.mem_of_mem_take hother)
    · intro other hother
      have hmem := (mem_recentlyUsed.1 (List.mem_of_mem_take hother)).1
      rw [List.append_cons]
      exact decide_eq_true (List.mem_append_left after hmem)
  case refused =>
    intro hrefused
    refine ⟨parsing_mem_reports_iff.2 (hmiss hrefused), ?_⟩
    cases hread : ofName name with
    | ok style =>
        rw [isAccepted_of_ofName_eq_ok hread] at hrefused
        cases hrefused
    | error e =>
        rw [lookup_of_refused (Cache.find?_eq_none_iff.2 (hmiss hrefused)) hread]

/-- Red is still kept after blue was used and `mauve` was refused. Green was kept before the run and
is no name of it. -/
theorem lookup_red_after_blue :
    let start : Cache := ⟨[("green".toList, ⟨"green".toList, [⟨none, [.foreground .green]⟩]⟩)]⟩
    let before := ["red".toList, "mauve".toList, "blue".toList]
    let run := before ++ "red".toList :: ["mauve".toList]
    (∀ other ∈ run, other ∉ start.names) ∧
      Diagnostic.parsing "red".toList ∉
        (lookup (start.afterLookups before) "red".toList).reports ∧
      ((lookup (start.afterLookups before) "red".toList).cache.names.filter
        fun kept => kept ∈ run) = ["red".toList, "blue".toList] := by
  intro start before run
  have hforeign : ∀ other ∈ run, other ∉ start.names := by decide +kernel
  have hlookup := lookup_leastRecentlyUsed start before "red".toList ["mauve".toList] hforeign
  refine ⟨hforeign,
    hlookup.1.2 ⟨by decide +kernel, [], ["mauve".toList, "blue".toList], rfl, ?_, ?_⟩,
    hlookup.2.1.trans ?_⟩
  · decide +kernel
  · decide +kernel
  · decide +kernel

end TerminalDecoration.Style
