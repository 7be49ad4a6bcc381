/-
# What removing markup takes away

Removing markup only ever takes characters away: the rewound lines, then the background tokens, then
all other tokens. So a text that comes out as it was came out of every one of these steps as it was,
and then no token stood in it.
-/

import TerminalDecoration.Proofs.Markup.Nesting
import TerminalDecoration.Proofs.Text.Parts
import TerminalDecoration.Proofs.Text.Utf8

namespace TerminalDecoration.Markup

open Text.Utf8 (encode)

/-- Leaving rewound lines out only takes characters away. -/
theorem dropRewoundFrom_sublist (lines : Nat) (exhausted : Bool) (s : List Char) :
    (dropRewoundFrom lines exhausted s).Sublist s := by
  fun_induction dropRewoundFrom lines exhausted s with
  | case1 exhausted s => exact List.Sublist.refl s
  | case2 exhausted s line after hline _ ih | case4 exhausted s line after hline _ _ _ ih =>
      rw [eq_of_breakLine? hline]
      exact (List.Sublist.refl line).append (ih.cons_cons '\n')
  | case3 exhausted s line after hline start hstart rest hrest ih =>
      obtain ⟨behind, rfl⟩ := eq_append_of_rewound hstart
      obtain ⟨skipped, rfl⟩ := suffix_of_afterLines? hrest
      have hs : s = start ++ (rewindText ++ behind ++ '\n' :: skipped ++ rest) := by
        rw [eq_of_breakLine? hline]
        simp
      rw [hs]
      exact (List.Sublist.refl start).append (ih.trans (List.sublist_append_right _ rest))

section

variable [Text.WordClass]

theorem deleteTokens_sublist (s : List Char) : (deleteTokens s).Sublist s :=
  (foregroundToken.erase_sublist _).trans (backgroundToken.erase_sublist s)

theorem plain_sublist (s : List Char) : (plain s).Sublist s :=
  (deleteTokens_sublist _).trans (dropRewoundFrom_sublist _ _ s)

theorem hasToken_eq_false_of_deleteTokens_eq {s : List Char} (h : deleteTokens s = s) :
    hasToken s = false := by
  have hbackground : backgroundToken.erase s = s := by
    have hforeground : (deleteTokens s).Sublist (backgroundToken.erase s) :=
      foregroundToken.erase_sublist _
    rw [h] at hforeground
    exact (backgroundToken.erase_sublist s).antisymm hforeground
  have hforeground : foregroundToken.erase s = s := by
    have hboth : foregroundToken.erase (backgroundToken.erase s) = s := h
    rwa [hbackground] at hboth
  rw [hasToken, foregroundToken.erase_eq_self_iff.1 hforeground,
    backgroundToken.erase_eq_self_iff.1 hbackground]
  rfl

/-- Markup is removed from a text exactly if there is some. -/
theorem plain_eq_self_iff {s : List Char} : plain s = s ↔ hasToken s = false := by
  constructor
  · intro h
    have hkept : dropRewound (rewoundLines s) s = s := by
      have hdeleted : (plain s).Sublist (dropRewound (rewoundLines s) s) := deleteTokens_sublist _
      rw [h] at hdeleted
      exact (dropRewoundFrom_sublist _ _ s).antisymm hdeleted
    apply hasToken_eq_false_of_deleteTokens_eq
    rwa [plain, hkept] at h
  · exact plain_eq_self_of_hasToken_eq_false

theorem length_plain_lt {s : List Char} (h : hasToken s = true) :
    (plain s).length < s.length := by
  apply Nat.lt_of_le_of_ne (plain_sublist s).length_le
  intro hlength
  have hself := plain_eq_self_iff.1 ((plain_sublist s).eq_of_length hlength)
  rw [h] at hself
  cases hself

/-- Exactly the texts without tokens are left alone, and from every other one characters are taken
away, and with them bytes. No way of leaving out rewound lines changes a text without tokens: it is
put together from its lines as it was. -/
theorem plain_shortens_marked (s : List Char) :
    (plain s = s ↔ hasToken s = false) ∧
      (hasToken s = true → (plain s).Sublist s ∧ (plain s).length < s.length ∧
        (encode (plain s)).length < (encode s).length) ∧
      (hasToken s = false → ∀ lines exhausted, dropRewoundFrom lines exhausted s = s) := by
  refine ⟨plain_eq_self_iff, fun h => ?_, fun h lines exhausted => ?_⟩
  · have hlength := length_plain_lt h
    have hbytes := Text.Utf8.length_encode_add_le (plain_sublist s)
    exact ⟨plain_sublist s, hlength, by omega⟩
  · exact dropRewoundFrom_of_not_infix (hasToken_eq_false_iff.1 h rewindText isToken_rewindText)

end

/-- A line with two rewinds and too few lines behind it is kept, and only its tokens go. What looks
like tokens but names nothing is no markup. -/
theorem plain_shortens_marked_shortLines :
    let marked := "x#{up}#{up}y\nz".toList
    let unmarked := "é\n#{}\n\n#{on:}{red}".toList
    (hasToken marked = true ∧ (plain marked).Sublist marked ∧
        (plain marked).length < marked.length ∧
        (encode (plain marked)).length < (encode marked).length) ∧
      (hasToken unmarked = false ∧
        ∀ lines exhausted, dropRewoundFrom lines exhausted unmarked = unmarked) := by
  intro marked unmarked
  have hmarked : hasToken marked = true := by decide +kernel
  have hunmarked : hasToken unmarked = false := by decide +kernel
  exact ⟨⟨hmarked, (plain_shortens_marked marked).2.1 hmarked⟩, hunmarked,
    (plain_shortens_marked unmarked).2.2 hunmarked⟩

end TerminalDecoration.Markup
