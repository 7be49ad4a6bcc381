/-
# The style cache

Styles that were understood before are kept, so that a name need not be read again. The cache is a
list in the order of use, the last used first; when it is full the style that was not used for the
longest time leaves. Refused names are not kept.
-/

import TerminalDecoration.Diagnostic

namespace TerminalDecoration.Style

/-- The kept styles by name, the last used first. -/
structure Cache where
  entries : List (List Char × Style)
  deriving DecidableEq, Repr

namespace Cache

/-- How many styles are kept at most. -/
def capacity : Nat := 256

/-- The cache that keeps nothing yet. -/
def empty : Cache := ⟨[]⟩

/-- The kept style of this name. -/
def find? (cache : Cache) (name : List Char) : Option Style := cache.entries.lookup name

/-- The cache after a use of this style: it comes first, and what is too much leaves at the end. -/
def use (cache : Cache) (name : List Char) (style : Style) : Cache :=
  ⟨((name, style) :: cache.entries.filter fun entry => entry.1 ≠ name).take capacity⟩

end Cache

/-- What a look-up of a name gives. -/
structure Lookup where
  result : Except NameError Style
  /-- The cache afterwards. -/
  cache : Cache
  reports : List Diagnostic

/-- Looks a name up in the cache, and understands it if it is not there. -/
def lookup (cache : Cache) (name : List Char) : Lookup :=
  match cache.find? name with
  | some style => ⟨.ok style, cache.use name style, []⟩
  | none =>
    match ofName name with
    | .ok style => ⟨.ok style, cache.use name style, [.parsing name]⟩
    | .error e => ⟨.error e, cache, [.parsing name, .refused e]⟩

end TerminalDecoration.Style
