-- SUMMARY: Cards with links share a column if they store the same links in any order, and otherwise only if a title of the old format spells out the links of the other card.
import Mathlib.Data.List.Sort
import Corkboard.Proofs.Grouping.Columns
import Corkboard.Proofs.LinkedCards.RoundTrip

/-!
# Cards with the same links

The id of a column of links has the links as they are written, in ascending order of their ids, with
commas between them. Nothing is escaped. Links of the current format have no comma anywhere and no
colon in their ids, so the joined text gives them back.

The old format has one link, and its title may be any text. A title with a comma may go on as
further links are written. Then the joined text is that of several links, and the two cards share a
column although they store different links. There is no other way to share one.
-/

namespace Corkboard

open LinkedCard (Legible)

namespace LinkedCards

/-! ## Links in order of their ids -/

/-- The links in ascending order of their ids. -/
def byId (links : List LinkedCard) : List LinkedCard :=
  links.mergeSort fun a b => a.id ≤ b.id

section ById

variable {links others : List LinkedCard}

theorem byId_perm (links : List LinkedCard) : (byId links).Perm links :=
  List.mergeSort_perm links _

theorem pairwise_byId (links : List LinkedCard) :
    (byId links).Pairwise fun a b => a.id ≤ b.id := by
  have : Std.Total fun a b : LinkedCard => a.id ≤ b.id := ⟨fun a b => String.le_total a.id b.id⟩
  have : IsTrans LinkedCard fun a b => a.id ≤ b.id := ⟨fun _ _ _ => String.le_trans⟩
  exact List.pairwise_mergeSort' _ links

/-- Links with distinct ids stand in order in only one way. -/
theorem byId_eq_of_perm (hdistinct : (links.map (·.id)).Nodup) (hperm : others.Perm links)
    (hsorted : others.Pairwise fun a b => a.id ≤ b.id) : byId links = others := by
  have hboth := (byId_perm links).trans hperm.symm
  refine hboth.eq_of_pairwise (fun a b ha hb hab hba => ?_) (pairwise_byId links) hsorted
  exact List.inj_on_of_nodup_map hdistinct ((byId_perm links).mem_iff.1 ha) (hperm.mem_iff.1 hb)
    (String.le_antisymm hab hba)

end ById

/-! ## Joined entries -/

/-- The entries of the links in ascending order of their ids, with commas between them. -/
def joined (links : List LinkedCard) : String :=
  String.intercalate "," ((byId links).map LinkedCard.entry)

/-- Joined entries are the first id, and then what could be a title: the first title with the
    further entries behind it. -/
theorem intercalate_entries_cons (first : LinkedCard) (rest : List LinkedCard) :
    String.intercalate "," ((first :: rest).map LinkedCard.entry) =
      first.id ++ ":" ++ String.intercalate "," (first.title :: rest.map LinkedCard.entry) := by
  cases rest with
  | nil => simp [LinkedCard.entry]
  | cons second more =>
    simp [String.intercalate_cons_cons, LinkedCard.entry, String.append_assoc]

theorem joined_singleton (link : LinkedCard) : joined [link] = link.entry := by
  simp [joined, byId]

/-- Legible links are read back from their joined entries. -/
theorem cardsOf_joined {links : List LinkedCard} (h : ∀ link ∈ links, link.Legible) :
    cardsOf (joined links).toList = byId links := by
  have hlegible : ∀ link ∈ byId links, link.Legible :=
    fun link hlink => h link ((byId_perm links).mem_iff.1 hlink)
  have htext : (joined links).toList =
      List.intercalate [','] ((byId links).map fun link => link.entry.toList) := by
    simp [joined, String.toList_intercalate, Function.comp_def]
  rw [htext, cardsOf_intercalate hlegible]

/-! ## What the two formats give -/

/-- The old format gives one link, whose title is the first title of the others and goes on, behind
    a comma, as the rest of them is written. -/
def SpellsOut (text : String) (others : List LinkedCard) : Prop :=
  '|' ∉ text.toList ∧ ∃ link first second rest,
    (parse text).cards = [link] ∧ (first :: second :: rest).Perm others ∧
      (first :: second :: rest).Pairwise (fun a b => a.id ≤ b.id) ∧ link.id = first.id ∧
        link.title =
          String.intercalate "," (first.title :: (second :: rest).map LinkedCard.entry)

/-- The current format gives legible links. The old one gives a link whose id has no colon, or
    none. -/
theorem cards_legible_or_old (text : String) :
    (∀ link ∈ (parse text).cards, link.Legible) ∨
      '|' ∉ text.toList ∧ ∃ link, (parse text).cards = [link] ∧ ':' ∉ link.id.toList := by
  by_cases hbar : '|' ∈ text.toList
  · exact .inl fun link hlink => legible_of_mem_cards hbar hlink
  · rw [parse_of_no_bar hbar, parseOld]
    cases hboard : Text.cutAt ':' text.toList with
    | none => simp
    | some parts =>
      obtain ⟨board, rest⟩ := parts
      cases hid : Text.cutAt ':' rest with
      | none => simp [hid]
      | some parts =>
        obtain ⟨id, title⟩ := parts
        obtain ⟨-, hcolon⟩ := Text.cutAt_eq_some_iff.1 hid
        exact .inr ⟨hbar, ⟨String.ofList id, String.ofList title⟩, by simp only [hid],
          by simpa using hcolon⟩

/-- A link of the old format is joined to the same text as other links only if it is the same link,
    or spells them out. -/
theorem perm_or_spellsOut {text : String} {link : LinkedCard} {others : List LinkedCard}
    (hbar : '|' ∉ text.toList) (hlink : (parse text).cards = [link]) (hcolon : ':' ∉ link.id.toList)
    (hcolons : ∀ other ∈ others, ':' ∉ other.id.toList) (hsame : joined [link] = joined others) :
    [link].Perm others ∨ SpellsOut text others := by
  have hperm := byId_perm others
  have hsorted := pairwise_byId others
  rw [joined_singleton, joined] at hsame
  cases hothers : byId others with
  | nil =>
    have htext := congrArg String.toList hsame
    simp [hothers] at htext
  | cons first rest =>
    rw [hothers] at hperm hsorted hsame
    have hfirst : ':' ∉ first.id.toList :=
      hcolons first (hperm.mem_iff.1 (List.mem_cons_self ..))
    -- Both ids end at the first colon of the text.
    have hcut := congrArg (fun text => Text.cutAt ':' text.toList)
      (hsame.trans (intercalate_entries_cons first rest))
    simp only [LinkedCard.toList_entry, String.toList_append, String.reduceToList,
      List.append_assoc, List.singleton_append, Text.cutAt_append hcolon,
      Text.cutAt_append hfirst, Option.some_inj, Prod.mk.injEq, String.toList_inj] at hcut
    obtain ⟨hid, htitle⟩ := hcut
    cases rest with
    | nil =>
      have hlink : link = first := by
        cases link
        cases first
        simp_all
      exact .inl (hlink ▸ hperm)
    | cons second more =>
      exact .inr ⟨hbar, link, first, second, more, hlink, hperm, hsorted, hid, htitle⟩

theorem joined_eq_of_spellsOut {text : String} {others : List LinkedCard}
    (hdistinct : (others.map (·.id)).Nodup) (h : SpellsOut text others) :
    joined (parse text).cards = joined others := by
  obtain ⟨-, link, first, second, rest, hlink, hperm, hsorted, hid, htitle⟩ := h
  rw [hlink, joined_singleton, joined, byId_eq_of_perm hdistinct hperm hsorted,
    intercalate_entries_cons, LinkedCard.entry, hid, htitle]

/-- When stored links with distinct ids are joined to the same text. -/
theorem joined_eq_iff {text text' : String} (hdistinct : ((parse text).cards.map (·.id)).Nodup)
    (hdistinct' : ((parse text').cards.map (·.id)).Nodup) :
    joined (parse text).cards = joined (parse text').cards ↔
      (parse text).cards.Perm (parse text').cards ∨ SpellsOut text (parse text').cards ∨
        SpellsOut text' (parse text).cards := by
  constructor
  · intro hsame
    rcases cards_legible_or_old text with hlegible | ⟨hbar, link, hlink, hcolon⟩
    · rcases cards_legible_or_old text' with hlegible' | ⟨hbar', link', hlink', hcolon'⟩
      · have hboth : byId (parse text).cards = byId (parse text').cards := by
          rw [← cardsOf_joined hlegible, hsame, cardsOf_joined hlegible']
        exact .inl ((byId_perm _).symm.trans (hboth ▸ byId_perm _))
      · rw [hlink'] at hsame ⊢
        have hcolons : ∀ other ∈ (parse text).cards, ':' ∉ other.id.toList :=
          fun other hother => (hlegible other hother).id_no_colon
        rcases perm_or_spellsOut hbar' hlink' hcolon' hcolons hsame.symm with hperm | hspells
        · exact .inl hperm.symm
        · exact .inr (.inr hspells)
    · have hcolons : ∀ other ∈ (parse text').cards, ':' ∉ other.id.toList := by
        rcases cards_legible_or_old text' with hlegible' | ⟨-, link', hlink', hcolon'⟩
        · exact fun other hother => (hlegible' other hother).id_no_colon
        · simpa [hlink'] using hcolon'
      rw [hlink] at hsame ⊢
      rcases perm_or_spellsOut hbar hlink hcolon hcolons hsame with hperm | hspells
      · exact .inl hperm
      · exact .inr (.inl hspells)
  · rintro (hperm | hspells | hspells)
    · have hboth := byId_eq_of_perm hdistinct ((byId_perm _).trans hperm.symm) (pairwise_byId _)
      rw [joined, joined, hboth]
    · exact joined_eq_of_spellsOut hdistinct' hspells
    · exact (joined_eq_of_spellsOut hdistinct hspells).symm

end LinkedCards

namespace Grouping

open Property (Template Value)
open LinkedCards (SpellsOut joined)

/-! ## Columns of links -/

/-- The text that a card stores for a template. A card without a value, or with a list, stores
    none. -/
def storedText (template : Template) (card : Card) : String :=
  match card.property? template.id with
  | some (.text s) => s
  | _ => ""

/-- The links that a card stores for a template. -/
def storedLinks (template : Template) (card : Card) : List LinkedCard :=
  (LinkedCards.parse (storedText template card)).cards

theorem columnKey_of_links {template : Template} (hkind : template.kind = .card) (card : Card) :
    columnKey template card = joined (storedLinks template card) := by
  have htext : ((card.property? template.id).bind Value.asText?).getD "" =
      storedText template card := by
    rw [storedText]
    cases card.property? template.id with
    | none => rfl
    | some value => cases value <;> rfl
  simp only [columnKey, headingOf?, hkind, links, htext, joined, storedLinks, LinkedCards.byId]
  split
  case h_1 hnone =>
    rw [hnone]
    rfl
  case h_2 => rfl

/-- In columns of links, two cards with links of distinct ids share a column if and only if they
    store the same links in any order, or one of them stores an old link that spells out the links
    of the other. -/
theorem together_iff_same_links {template : Template} (hkind : template.kind = .card)
    (visible hidden : List String) {cards : List Card} {i j : Nat} {a b : Card}
    (ha : cards[i]? = some a) (hb : cards[j]? = some b)
    (hdistinct : ((storedLinks template a).map (·.id)).Nodup)
    (hdistinct' : ((storedLinks template b).map (·.id)).Nodup) :
    (columns template visible hidden cards).Together cards i j ↔
      (storedLinks template a).Perm (storedLinks template b) ∨
        SpellsOut (storedText template a) (storedLinks template b) ∨
        SpellsOut (storedText template b) (storedLinks template a) := by
  rw [columns_together_iff template visible hidden ha hb, columnKey_of_links hkind,
    columnKey_of_links hkind]
  exact LinkedCards.joined_eq_iff hdistinct hdistinct'

/-- Two links in both orders, a part of them, and an old link that spells them out. -/
theorem links_together_in_any_order :
    let template : Template := ⟨"rel", "Related", .card, [], none⟩
    let card (text : String) := (Card.new "c" "b" "Card" 0).setProperty "rel" (.text text)
    let cards := [card "b1|c2:Two: b,c1:One", card "b1|c1:One,c2:Two: b", card "b1|c1:One",
      card "b1:c1:One,c2:Two: b"]
    let shown := columns template [] [] cards
    (∀ card ∈ cards, ((storedLinks template card).map (·.id)).Nodup) ∧
      shown.Together cards 0 1 ∧ ¬shown.Together cards 0 2 ∧ shown.Together cards 0 3 := by
  intro template card cards shown
  have hdistinct : ∀ card ∈ cards, ((storedLinks template card).map (·.id)).Nodup := by decide
  have hkind : template.kind = .card := rfl
  have htogether {i j : Nat} {a b : Card} (ha : cards[i]? = some a) (hb : cards[j]? = some b) :=
    together_iff_same_links hkind [] [] ha hb
      (hdistinct a (List.mem_of_getElem? ha)) (hdistinct b (List.mem_of_getElem? hb))
  refine ⟨hdistinct, (htogether rfl rfl).2 (.inl (by decide)), fun h => ?_,
    (htogether rfl rfl).2 (.inr (.inr ⟨by decide, ⟨"c1", "One,c2:Two: b"⟩, ⟨"c1", "One"⟩,
      ⟨"c2", "Two: b"⟩, [], by decide, by decide, by decide, rfl, by decide⟩))⟩
  rcases (htogether (i := 0) (j := 2) rfl rfl).1 h with hperm | ⟨hbar, -⟩ | ⟨hbar, -⟩
  · exact absurd hperm (by decide)
  · exact absurd hbar (by decide)
  · exact absurd hbar (by decide)

/-- An old link and two links of the current format share a column, although they are different,
    and no card links to anything twice. -/
theorem different_links_together :
    let template : Template := ⟨"rel", "Related", .card, [], none⟩
    let card (text : String) := (Card.new "c" "b" "Card" 0).setProperty "rel" (.text text)
    let cards := [card "b1:c1:One,c2:Two", card "b1|c1:One,c2:Two"]
    storedLinks template (card "b1:c1:One,c2:Two") = [⟨"c1", "One,c2:Two"⟩] ∧
      storedLinks template (card "b1|c1:One,c2:Two") = [⟨"c1", "One"⟩, ⟨"c2", "Two"⟩] ∧
      (∀ card ∈ cards, ((storedLinks template card).map (·.id)).Nodup) ∧
      ¬((columns template [] [] cards).Together cards 0 1 ↔
        (storedLinks template (card "b1:c1:One,c2:Two")).Perm
          (storedLinks template (card "b1|c1:One,c2:Two"))) := by
  intro template card cards
  have hold : storedLinks template (card "b1:c1:One,c2:Two") = [⟨"c1", "One,c2:Two"⟩] := by decide
  have hcurrent : storedLinks template (card "b1|c1:One,c2:Two") =
      [⟨"c1", "One"⟩, ⟨"c2", "Two"⟩] := by
    decide
  refine ⟨hold, hcurrent, by decide, fun h => ?_⟩
  have hsorted : LinkedCards.byId [⟨"c1", "One"⟩, ⟨"c2", "Two"⟩] =
      [⟨"c1", "One"⟩, ⟨"c2", "Two"⟩] :=
    LinkedCards.byId_eq_of_perm (by decide) (.refl _) (by decide)
  have htogether : (columns template [] [] cards).Together cards 0 1 := by
    rw [columns_together_iff template [] [] rfl rfl, columnKey_of_links rfl, columnKey_of_links rfl,
      hold, hcurrent, LinkedCards.joined_singleton, joined, hsorted]
    decide
  have hperm := h.1 htogether
  rw [hold, hcurrent] at hperm
  exact absurd hperm (by decide)

end Grouping
end Corkboard
