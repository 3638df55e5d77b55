-- SUMMARY: Templates that say the same: an equivalence to which the order of the choices does not matter.
import Corkboard.Proofs.Property.Lookup

/-!
# Templates that say the same

The test whether two templates say the same looks in one direction only. There must be equally many
choices on both sides, and each choice of the first template must be what a look-up of its id finds
in the second. An edit uses the test both ways, for its update and for its undo, and so rests on the
symmetry.

The test is transitive for any templates, since what a look-up finds is itself a choice that is
looked up next. The other two laws need choices with ids of their own: a look-up finds the first
choice with an id, and never another one behind it.
-/

namespace Corkboard.Property.Template

variable {a b c : Template} {choices : List Choice}

/-! ## Any templates -/

theorem sameAs_trans (hab : a.sameAs b) (hbc : b.sameAs c) : a.sameAs c := by
  obtain ⟨hid, hname, hkind, hindex, hlen, hfound⟩ := sameAs_iff_found.1 hab
  obtain ⟨hid', hname', hkind', hindex', hlen', hfound'⟩ := sameAs_iff_found.1 hbc
  refine sameAs_iff_found.2 ⟨hid.trans hid', hname.trans hname', hkind.trans hkind',
    hindex.trans hindex', hlen.trans hlen', fun choice hchoice => ?_⟩
  have hmem : choice ∈ b.choices := List.mem_of_find?_eq_some (hfound choice hchoice)
  exact hfound' choice hmem

/-- The choices of the first template are looked up one by one, in whatever order. -/
theorem sameAs_reorder_left (h : choices.Perm a.choices) :
    sameAs { a with choices } b = a.sameAs b := by
  rw [Bool.eq_iff_iff]
  simp only [sameAs_iff_found, h.length_eq, h.mem_iff]

/-! ## Choices with ids of their own -/

theorem findChoice?_reorder (ha : a.DistinctChoices) (h : choices.Perm a.choices) (id : String) :
    findChoice? { a with choices } id = a.findChoice? id :=
  (find?_key_of_perm ha h.symm id).symm

theorem sameAs_reorder_right (hb : b.DistinctChoices) (h : choices.Perm b.choices) :
    a.sameAs { b with choices } = a.sameAs b := by
  rw [Bool.eq_iff_iff]
  simp only [sameAs_iff_found, h.length_eq, findChoice?_reorder hb h]

theorem sameAs_equivalence :
    Equivalence fun a b : { t : Template // t.DistinctChoices } => a.val.sameAs b.val where
  refl a := sameAs_self a.property
  symm {a b} h := (sameAs_comm a.property b.property).symm.trans h
  trans := sameAs_trans

/-- Where an id is repeated, the test may succeed in one direction and fail in the other. -/
example :
    let yes : Choice := ⟨"yes", "Yes", ""⟩
    let no : Choice := ⟨"no", "No", ""⟩
    let done (choices : List Choice) : Template := ⟨"done", "Done", .select, choices, none⟩
    (done [yes, yes]).sameAs (done [yes, no]) ∧ ¬(done [yes, no]).sameAs (done [yes, yes]) := by
  decide

/-- Among templates in which no two choices share an id, saying the same is an equivalence. Two of
    them say the same exactly if they have the same id, name, kind and note of position, and the
    choices of one are those of the other in some order. Another order of the choices, on either
    side, changes nothing. -/
theorem same_up_to_order_of_choices :
    (Equivalence fun a b : { t : Template // t.DistinctChoices } => a.val.sameAs b.val) ∧
      ∀ a b : Template, a.DistinctChoices → b.DistinctChoices →
        (a.sameAs b ↔
          a.id = b.id ∧ a.name = b.name ∧ a.kind = b.kind ∧ a.index = b.index ∧
            b.choices.Perm a.choices) ∧
        ∀ choices choices' : List Choice, choices.Perm a.choices → choices'.Perm b.choices →
          sameAs { a with choices } { b with choices := choices' } = a.sameAs b := by
  refine ⟨sameAs_equivalence, fun a b ha hb => ⟨?_, fun choices choices' h h' => ?_⟩⟩
  · rw [sameAs_iff_perm ha hb, List.perm_comm]
  · rw [sameAs_reorder_left h, sameAs_reorder_right hb h']

/-- The same three choices in another order, and with another label on one of them. -/
theorem same_for_reordered_not_relabelled :
    let yes : Choice := ⟨"yes", "Yes", ""⟩
    let no : Choice := ⟨"no", "No", ""⟩
    let later (label : String) : Choice := ⟨"later", label, "gray"⟩
    let done (choices : List Choice) : Template := ⟨"done", "Done", .select, choices, some 0⟩
    let old := done [yes, no, later "Later"]
    let reordered := done [later "Later", yes, no]
    let relabelled := done [yes, no, later "Some day"]
    old.DistinctChoices ∧ reordered.DistinctChoices ∧ relabelled.DistinctChoices ∧
      old.sameAs reordered ∧ reordered.sameAs old ∧ ¬old.sameAs relabelled ∧
      ¬relabelled.sameAs (done [no, later "Later", yes]) := by
  intro yes no later done old reordered relabelled
  have hold : old.DistinctChoices := by decide
  have hreordered : reordered.DistinctChoices := by decide
  have hrelabelled : relabelled.DistinctChoices := by decide
  obtain ⟨hequivalence, hpairs⟩ := same_up_to_order_of_choices
  obtain ⟨hsame, -⟩ := hpairs old reordered hold hreordered
  obtain ⟨hother, horder⟩ := hpairs relabelled old hrelabelled hold
  have hforward : old.sameAs reordered := hsame.2 ⟨rfl, rfl, rfl, rfl, by decide⟩
  have hback : reordered.sameAs old :=
    hequivalence.symm (x := ⟨old, hold⟩) (y := ⟨reordered, hreordered⟩) hforward
  have hdiffer : ¬relabelled.sameAs old := by
    intro h
    obtain ⟨-, -, -, -, hperm⟩ := hother.1 h
    exact absurd hperm (by decide)
  refine ⟨hold, hreordered, hrelabelled, hforward, hback, fun h => hdiffer ?_, ?_⟩
  · exact hequivalence.symm (x := ⟨old, hold⟩) (y := ⟨relabelled, hrelabelled⟩) h
  · rwa [← horder _ [no, later "Later", yes] (.refl _) (by decide)] at hdiffer

end Corkboard.Property.Template
