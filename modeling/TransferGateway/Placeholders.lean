import TransferGateway.Messages
import TransferGateway.Lib.Substitution

/-!
# Placeholders

The placeholders of a template stand for values that are put in their places. `render` replaces one
after the other in the whole message, so what a value brings along, or completes, is replaced too.
-/

namespace TransferGateway

open Substitution

def placeholder (name : String) : String := "\x7b" ++ name ++ "\x7d"

/-- Names as the callers of `render` give them: distinct, and without braces. -/
structure PlainNames (replacements : List (String × String)) : Prop where
  distinct : (replacements.map Prod.fst).Nodup
  braceless : ∀ replacement ∈ replacements, ∀ c ∈ replacement.1.toList, c ≠ '\x7b' ∧ c ≠ '\x7d'

def rules (replacements : List (String × String)) : List (Rule Char) :=
  replacements.map fun (name, value) => ⟨(placeholder name).toList, value.toList⟩

lemma toList_placeholder (name : String) :
    (placeholder name).toList = '\x7b' :: (name.toList ++ ['\x7d']) := by
  simp [placeholder, String.toList_append]

lemma placeholder_injective : Function.Injective placeholder := by
  intro n m h
  have hlist := congrArg String.toList h
  rw [toList_placeholder, toList_placeholder, List.cons_inj_right, List.append_left_inj] at hlist
  exact String.toList_injective hlist

variable {replacements : List (String × String)}

lemma mem_patterns {p : List Char} (hp : p ∈ (rules replacements).map Rule.pattern) :
    ∃ replacement ∈ replacements, p = (placeholder replacement.1).toList := by
  simp only [rules, List.map_map, List.mem_map, Function.comp_apply] at hp
  obtain ⟨replacement, hmem, rfl⟩ := hp
  exact ⟨replacement, hmem, rfl⟩

/-- Braces keep placeholders apart. -/
lemma PlainNames.separate (h : PlainNames replacements) :
    Separate ((rules replacements).map Rule.pattern) := by
  intro p hp
  obtain ⟨⟨n, x⟩, hn, rfl⟩ := mem_patterns hp
  rw [toList_placeholder]
  refine ⟨by simp, ?_⟩
  intro q hq s hs hsuffix hor
  obtain ⟨⟨m, y⟩, hm, rfl⟩ := mem_patterns hq
  rw [toList_placeholder] at hor ⊢
  have hwhole : s = '\x7b' :: (n.toList ++ ['\x7d']) := by
    obtain rfl | hinner := List.suffix_cons_iff.mp hsuffix
    · rfl
    -- a part of it would begin with a brace inside
    obtain ⟨c, s, rfl⟩ := List.exists_cons_of_ne_nil hs
    have hc : c = '\x7b' := by
      rw [List.cons_prefix_cons, List.cons_prefix_cons] at hor
      tauto
    have hmem : c ∈ n.toList ++ ['\x7d'] := hinner.subset (by simp)
    have hnot := h.braceless _ hn c
    simp_all
  subst hwhole
  refine ⟨rfl, ?_⟩
  have hinside {n m : String} (hm : ∀ c ∈ m.toList, c ≠ '\x7b' ∧ c ≠ '\x7d')
      (hinitial : n.toList ++ ['\x7d'] <+: m.toList ++ ['\x7d']) :
      n.toList ++ ['\x7d'] = m.toList ++ ['\x7d'] := by
    obtain heq | hshort := List.prefix_concat_iff.mp hinitial
    · exact heq
    · exact absurd rfl (hm '\x7d' (hshort.subset (by simp))).2
  simp only [List.cons_prefix_cons, true_and] at hor
  obtain hor | hor := hor
  · rw [hinside (h.braceless _ hm) hor]
  · rw [hinside (h.braceless _ hn) hor]

lemma PlainNames.nodup (h : PlainNames replacements) :
    ((rules replacements).map Rule.pattern).Nodup := by
  have heq : (rules replacements).map Rule.pattern =
      (replacements.map Prod.fst).map fun name => (placeholder name).toList := by
    simp [rules]
  rw [heq, List.nodup_map_iff fun n m hnm => placeholder_injective (String.toList_injective hnm)]
  exact h.distinct

/-! ### Replacing is substituting -/

lemma replaceChars_eq {pattern value : List Char} (hpattern : pattern ≠ []) {fuel : ℕ}
    {text : List Char} (hfuel : text.length ≤ fuel) :
    replaceChars pattern value fuel text = substitute [⟨pattern, value⟩] text := by
  induction fuel generalizing text with
  | zero =>
    obtain rfl := List.length_eq_zero_iff.mp (Nat.le_zero.mp hfuel)
    rfl
  | succ fuel ih =>
    cases text with
    | nil => rfl
    | cons c text =>
      rw [replaceChars]
      by_cases hcomes : pattern <+: c :: text
      · obtain ⟨rest, hrest⟩ := hcomes
        have hlt : rest.length ≤ fuel := by
          have hlength := congrArg List.length hrest
          have hpos := List.length_pos_iff.mpr hpattern
          simp only [List.length_append, List.length_cons] at hlength hfuel
          omega
        rw [← hrest, if_pos (by simp), List.drop_left, ih hlt, substitute_single_append hpattern]
      · rw [if_neg (by simpa using hcomes), substitute_cons, ih (by simpa using hfuel)]
        simpa [next_eq_none] using hcomes

namespace Language

variable (language : Language) (key : String)

def template : String := (language.messages.get key).getD key

/-- What a message is meant to be: its template, with every placeholder replaced at once. -/
def renderAtOnce (replacements : List (String × String)) : String :=
  String.ofList (substitute (rules replacements) (language.template key).toList)

/-- The same, and where each letter is from. -/
def renderMarked (replacements : List (String × String)) : List (Letter Char) :=
  filled (rules replacements) (language.template key).toList

lemma render_eq (replacements : List (String × String)) :
    language.render key replacements =
      String.ofList (substituteInTurn (rules replacements) (language.template key).toList) := by
  rw [render, ← template]
  generalize language.template key = message
  induction replacements generalizing message with
  | nil => simp [rules, substituteInTurn]
  | cons replacement replacements ih =>
    obtain ⟨name, value⟩ := replacement
    have hpattern : (placeholder name).toList ≠ [] := by simp [toList_placeholder]
    have hone : replaceText message (placeholder name) value =
        String.ofList (substitute [⟨(placeholder name).toList, value.toList⟩] message.toList) := by
      rw [replaceText, replaceChars_eq hpattern le_rfl]
    rw [List.foldl_cons, ih]
    change String.ofList
      (substituteInTurn _ (replaceText message (placeholder name) value).toList) = _
    rw [hone, String.toList_ofList]
    rfl

end Language

lemma forall_prefix_rules {P : List (Rule Char) → Prop} :
    (∀ τ, τ <+: rules replacements → P τ) ↔
      ∀ earlier, earlier <+: replacements → P (rules earlier) := by
  constructor
  · intro h earlier hearlier
    exact h _ (hearlier.map _)
  · intro h τ hτ
    obtain ⟨earlier, hearlier, rfl⟩ := List.prefix_map_iff.mp hτ
    exact h earlier hearlier

lemma forall_concat_prefix_rules {P : List (Rule Char) → Rule Char → Prop} :
    (∀ τ r, τ ++ [r] <+: rules replacements → P τ r) ↔
      ∀ earlier name value, earlier ++ [(name, value)] <+: replacements →
        P (rules earlier) ⟨(placeholder name).toList, value.toList⟩ := by
  constructor
  · intro h earlier name value hinitial
    apply h
    simpa [rules] using hinitial.map _
  · intro h τ r hinitial
    obtain ⟨turns, hturns, heq⟩ := List.prefix_map_iff.mp hinitial
    obtain ⟨earlier, last, rfl, rfl, hlast⟩ := List.map_eq_append_iff.mp heq.symm
    obtain ⟨⟨name, value⟩, rfl, rfl⟩ := List.map_eq_singleton_iff.mp hlast
    exact h earlier name value hturns

namespace Language

variable (language : Language) (key : String)

/-- At each replacement the message is what it is meant to be if and only if every placeholder comes
in letters of the template only when its turn is, or stands for itself. -/
theorem render_eq_atOnce_iff (h : PlainNames replacements) :
    ((∀ earlier, earlier <+: replacements →
        language.render key earlier = language.renderAtOnce key earlier) ↔
      ∀ earlier name value, earlier ++ [(name, value)] <+: replacements →
        value = placeholder name ∨
          OnlyInTemplate (placeholder name).toList (language.renderMarked key earlier)) ∧
      ∀ other, other.Perm replacements →
        language.renderAtOnce key other = language.renderAtOnce key replacements := by
  constructor
  · have hturns := substituteInTurn_eq_iff h.separate h.nodup (language.template key).toList
    rw [forall_prefix_rules, forall_concat_prefix_rules] at hturns
    simpa only [render_eq, renderAtOnce, renderMarked, String.ofList_inj, String.toList_inj]
      using hturns
  · intro other hperm
    have hrules : (rules other).Perm (rules replacements) := hperm.map _
    rw [renderAtOnce, substitute_perm h.separate h.nodup hrules, ← renderAtOnce]

/-- The transfer message of the English language file. -/
def transferMessage : Language where
  locale := "en-US"
  messages := .single "log.transfer"
    "Transferring player \x7bplayer\x7d to node \x7bline\x7d (\x7btarget\x7d)."

def transferred (player line target : String) : List (String × String) :=
  [("player", player), ("line", line), ("target", target)]

theorem render_eq_atOnce_iff_transfer :
    PlainNames (transferred "Steve" "lobby" "a.example:25565") ∧
    ((∀ earlier, earlier <+: transferred "Steve" "lobby" "a.example:25565" →
        transferMessage.render "log.transfer" earlier =
          transferMessage.renderAtOnce "log.transfer" earlier) ↔
      ∀ earlier name value,
        earlier ++ [(name, value)] <+: transferred "Steve" "lobby" "a.example:25565" →
          value = placeholder name ∨ OnlyInTemplate (placeholder name).toList
            (transferMessage.renderMarked "log.transfer" earlier)) := by
  have h : PlainNames (transferred "Steve" "lobby" "a.example:25565") :=
    ⟨by decide, by simp [transferred]⟩
  exact ⟨h, (render_eq_atOnce_iff transferMessage "log.transfer" h).1⟩

example : transferMessage.render "log.transfer" (transferred "Steve" "lobby" "a.example:25565") =
    "Transferring player Steve to node lobby (a.example:25565)." := by
  rw [render_eq]
  decide +kernel

/-- A node that is named like a placeholder. -/
theorem node_name_replaced :
    transferMessage.render "log.transfer" (transferred "Steve" "\x7btarget\x7d" "a.example:25565") =
      "Transferring player Steve to node a.example:25565 (a.example:25565)." ∧
    transferMessage.renderAtOnce "log.transfer"
        (transferred "Steve" "\x7btarget\x7d" "a.example:25565") =
      "Transferring player Steve to node \x7btarget\x7d (a.example:25565)." ∧
    transferMessage.render "log.transfer"
        (transferred "Steve" "\x7btarget\x7d" "a.example:25565").reverse =
      "Transferring player Steve to node \x7btarget\x7d (a.example:25565)." := by
  simp only [render_eq, renderAtOnce]
  decide +kernel

end Language

end TransferGateway
