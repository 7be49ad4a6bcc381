/-
# Look-ups in the style cache

A look-up has three outcomes: the name is kept, or it is read and accepted, or it is refused. This
module says in full what each of them does, and derives from that what every cache is like that
began empty and was only changed by look-ups: each kept style is the one that its name is read as,
so nobody can tell from the result of a look-up whether the name was kept.
-/

import TerminalDecoration.Style.Cache

namespace TerminalDecoration.Style

namespace Cache

/-- The names of the kept styles, the last used first. -/
def names (cache : Cache) : List (List Char) := cache.entries.map Prod.fst

theorem find?_eq_none_iff {cache : Cache} {name : List Char} :
    cache.find? name = none ↔ name ∉ cache.names := by
  simp only [find?, names, List.lookup_eq_none_iff, List.mem_map]
  grind

theorem mem_entries_of_find? {cache : Cache} {name : List Char} {style : Style}
    (h : cache.find? name = some style) : (name, style) ∈ cache.entries := by
  obtain ⟨before, after, hentries, -⟩ := List.lookup_eq_some_iff.1 h
  rw [hentries]
  exact List.mem_append_cons_self

theorem names_use (cache : Cache) (name : List Char) (style : Style) :
    (cache.use name style).names =
      (name :: cache.names.filter fun other => other ≠ name).take capacity := by
  simp [use, names, List.map_take, List.filter_map, Function.comp_def]

/-- The cache after look-ups of these names, one after the other. -/
def afterLookups (cache : Cache) (names : List (List Char)) : Cache :=
  names.foldl (fun cache name => (lookup cache name).cache) cache

theorem afterLookups_cons (cache : Cache) (name : List Char) (names : List (List Char)) :
    cache.afterLookups (name :: names) = (lookup cache name).cache.afterLookups names := rfl

theorem afterLookups_append (cache : Cache) (names more : List (List Char)) :
    cache.afterLookups (names ++ more) = (cache.afterLookups names).afterLookups more :=
  List.foldl_append

theorem afterLookups_concat (cache : Cache) (names : List (List Char)) (name : List Char) :
    cache.afterLookups (names ++ [name]) = (lookup (cache.afterLookups names) name).cache :=
  cache.afterLookups_append names [name]

end Cache

/-! ## The outcomes of a look-up -/

theorem lookup_of_find?_eq_some {cache : Cache} {name : List Char} {style : Style}
    (h : cache.find? name = some style) :
    lookup cache name = ⟨.ok style, cache.use name style, []⟩ := by
  rw [lookup, h]

theorem lookup_of_accepted {cache : Cache} {name : List Char} {style : Style}
    (hmiss : cache.find? name = none) (hread : ofName name = .ok style) :
    lookup cache name = ⟨.ok style, cache.use name style, [.parsing name]⟩ := by
  rw [lookup, hmiss, hread]

theorem lookup_of_refused {cache : Cache} {name : List Char} {e : NameError}
    (hmiss : cache.find? name = none) (hread : ofName name = .error e) :
    lookup cache name = ⟨.error e, cache, [.parsing name, .refused e]⟩ := by
  rw [lookup, hmiss, hread]

/-- The cache answers alone exactly for the names that it keeps. -/
theorem parsing_mem_reports_iff {cache : Cache} {name : List Char} :
    Diagnostic.parsing name ∈ (lookup cache name).reports ↔ name ∉ cache.names := by
  rw [← Cache.find?_eq_none_iff]
  cases hfind : cache.find? name with
  | some style => simp [lookup_of_find?_eq_some hfind]
  | none =>
      cases hread : ofName name with
      | ok style => simp [lookup_of_accepted hfind hread]
      | error e => simp [lookup_of_refused hfind hread]

/-! ## Caches that look-ups have made -/

/-- No more styles are kept than there is room for, none of them twice, and each is the one that its
name is read as. -/
structure Cache.IsSound (cache : Cache) : Prop where
  length_le : cache.entries.length ≤ Cache.capacity
  nodup_names : cache.names.Nodup
  ofName_eq : ∀ entry ∈ cache.entries, ofName entry.1 = .ok entry.2

namespace Cache.IsSound

theorem empty : Cache.empty.IsSound where
  length_le := Nat.zero_le _
  nodup_names := List.nodup_nil
  ofName_eq := by simp [Cache.empty]

variable {cache : Cache}

theorem ofName_of_find? (hsound : cache.IsSound) {name : List Char} {style : Style}
    (h : cache.find? name = some style) : ofName name = .ok style :=
  hsound.ofName_eq _ (Cache.mem_entries_of_find? h)

/-- Keeping the style that a name is read as keeps a cache sound. -/
theorem use (hsound : cache.IsSound) {name : List Char} {style : Style}
    (hread : ofName name = .ok style) : (cache.use name style).IsSound where
  length_le := List.length_take_le _ _
  nodup_names := by
    rw [Cache.names_use]
    refine List.Nodup.sublist (List.take_sublist _ _) (List.nodup_cons.2 ⟨?_, ?_⟩)
    · simp
    · exact hsound.nodup_names.filter _
  ofName_eq := by
    intro entry hentry
    rcases List.mem_cons.1 (List.mem_of_mem_take hentry) with rfl | hkept
    · exact hread
    · exact hsound.ofName_eq entry ((List.mem_filter.1 hkept).1)

/-- A look-up gives what reading the name gives, whatever the cache keeps. -/
theorem lookup_result (hsound : cache.IsSound) (name : List Char) :
    (lookup cache name).result = ofName name := by
  cases hfind : cache.find? name with
  | some style => rw [lookup_of_find?_eq_some hfind, hsound.ofName_of_find? hfind]
  | none =>
      cases hread : ofName name with
      | ok style => rw [lookup_of_accepted hfind hread]
      | error e => rw [lookup_of_refused hfind hread]

/-- A look-up of an accepted name is a use of its style, whether the cache keeps it or not. -/
theorem lookup_cache_of_accepted (hsound : cache.IsSound) {name : List Char} {style : Style}
    (hread : ofName name = .ok style) : (lookup cache name).cache = cache.use name style := by
  cases hfind : cache.find? name with
  | some kept =>
      have hkept := hsound.ofName_of_find? hfind
      rw [hread] at hkept
      cases hkept
      rw [lookup_of_find?_eq_some hfind]
  | none => rw [lookup_of_accepted hfind hread]

/-- A look-up of a refused name does nothing to the cache. -/
theorem lookup_cache_of_refused (hsound : cache.IsSound) {name : List Char} {e : NameError}
    (hread : ofName name = .error e) : (lookup cache name).cache = cache := by
  cases hfind : cache.find? name with
  | some kept =>
      have hkept := hsound.ofName_of_find? hfind
      rw [hread] at hkept
      cases hkept
  | none => rw [lookup_of_refused hfind hread]

/-- A look-up keeps a cache sound. -/
theorem lookup_cache (hsound : cache.IsSound) (name : List Char) :
    (lookup cache name).cache.IsSound := by
  cases hfind : cache.find? name with
  | some style =>
      rw [lookup_of_find?_eq_some hfind]
      exact hsound.use (hsound.ofName_of_find? hfind)
  | none =>
      cases hread : ofName name with
      | ok style =>
          rw [lookup_of_accepted hfind hread]
          exact hsound.use hread
      | error e =>
          rw [lookup_of_refused hfind hread]
          exact hsound

/-- Any number of look-ups keep a cache sound. -/
theorem afterLookups (hsound : cache.IsSound) (names : List (List Char)) :
    (cache.afterLookups names).IsSound := by
  induction names generalizing cache with
  | nil => exact hsound
  | cons name names ih => exact ih (hsound.lookup_cache name)

end Cache.IsSound

end TerminalDecoration.Style
