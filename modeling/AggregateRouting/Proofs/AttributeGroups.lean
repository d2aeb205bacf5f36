import AggregateRouting.Source.Written
import Mathlib.Data.List.Basic

/-! # Groups in attributes

A group of tokens is read up to the bracket that closes it (`Source.Reader.tree_run`). So the list
of an attribute is read alike in brackets of every kind (`Source.attributeGroup_run`). -/

namespace AggregateRouting.Source
open Written (grouped)
variable {α β : Type} {b : Bracket} {ts rest written : List Token} {left? : Option Bracket}

theorem Token.afterEnd_append {opened : List Bracket} (h : Token.balanced opened ts = true)
    (b : Bracket) (rest : List Token) :
    Token.afterEnd opened.length (ts ++ .closing b :: rest) = rest := by
  induction ts generalizing opened with
  | nil =>
    obtain rfl := List.isEmpty_iff.1 h
    rfl
  | cons t ts ih =>
    cases t with
    | opening b' =>
      have h : Token.balanced (b' :: opened) ts = true := h
      exact ih h
    | closing b' =>
      rcases opened with _ | ⟨b'', opened⟩
      · cases h
      · exact ih (Bool.and_eq_true_iff.1 h).2
    | word | lifetime | quoted | literal | mark => exact ih h

theorem Token.afterTree_grouped (h : Token.balanced [] ts = true) :
    Token.afterTree (grouped b ts ++ rest) = rest := by
  have hend := Token.afterEnd_append h b rest
  rwa [← List.singleton_append, ← List.append_assoc] at hend

namespace Reader

theorem run_bind_of_ok {r : Reader α} {f : α → Reader β} {a : α} {s s' : Progress}
    (h : r.run s = .ok (a, s')) : (r >>= f).run s = (f a).run s' := by
  rw [StateT.run_bind, h]
  rfl

theorem collect_run {r : Reader α} {a : α} {rest' written' : List Token} {left?' : Option Bracket}
    (h : r.run ⟨rest, [], left?⟩ = .ok (a, ⟨rest', written', left?'⟩)) :
    (collect r).run ⟨rest, written, left?⟩
      = .ok ((a, written'.reverse), ⟨rest', written, left?'⟩) := by
  have hstart : (collect r).run ⟨rest, written, left?⟩
      = (do
          let a ← r
          let ts := (← get).written.reverse
          modify fun s => { s with written := written }
          return (a, ts) : Reader (α × List Token)).run ⟨rest, [], left?⟩ := rfl
  rw [hstart, run_bind_of_ok h]
  rfl

theorem tree_run (h : Token.balanced [] ts = true) :
    tree.run ⟨grouped b ts ++ rest, written, left?⟩
      = .ok ((), ⟨rest, (grouped b ts).reverse ++ written, left?⟩) := by
  have htake : ∀ s : Progress, tree.run s
      = let count := s.rest.length - (Token.afterTree s.rest).length
        .ok ((), ⟨s.rest.drop count, (s.rest.take count).reverse ++ s.written, s.left?⟩) :=
    fun _ => rfl
  simp [htake, Token.afterTree_grouped h]

theorem anyGroup_run (h : Token.balanced [] ts = true) :
    anyGroup.run ⟨grouped b ts ++ rest, written, left?⟩
      = .ok (b, ⟨rest, (grouped b ts).reverse ++ written, left?⟩) := by
  have hget : anyGroup.run ⟨grouped b ts ++ rest, written, left?⟩
      = (tree >>= fun _ => return b : Reader Bracket).run
          ⟨grouped b ts ++ rest, written, left?⟩ := rfl
  rw [hget, run_bind_of_ok (tree_run h)]
  rfl

theorem inside_run {r : Reader α} {a : α} {rest' written' : List Token} {left?' : Option Bracket}
    (h : r.run ⟨rest, .opening b :: written, left?⟩
      = .ok (a, ⟨.closing b :: rest', written', left?'⟩)) :
    (inside b r).run ⟨.opening b :: rest, written, left?⟩
      = .ok (a, ⟨rest', .closing b :: written', left?'⟩) := by
  have hexpect : (expect b).run ⟨.opening b :: rest, written, left?⟩
      = .ok ((), ⟨rest, .opening b :: written, left?⟩) := by
    cases b <;> rfl
  unfold inside
  rw [run_bind_of_ok hexpect, run_bind_of_ok h]
  rfl

end Reader

/-- The list of a `property` attribute may stand in brackets of any kind. -/
theorem attributeGroup_run (read : Grammar) (b : Bracket) (h : Token.balanced [] ts = true) :
    (attributeGroup read).run
        ⟨.opening .square :: .word "property" :: (grouped b ts ++ .closing .square :: rest),
          written, left?⟩
      = .ok (⟨"property", .group b ts⟩,
          ⟨rest, .closing .square
              :: ((grouped b ts).reverse ++ .word "property" :: .opening .square :: written),
            left?⟩) := by
  refine Reader.inside_run ?_
  -- The group comes next once the path is read, whatever its brackets are.
  have hpath : (Reader.collect do unless ← Reader.accept "unsafe" do placePath).run
      ⟨.word "property" :: (grouped b ts ++ .closing .square :: rest), .opening .square :: written,
        left?⟩
      = .ok (((), [.word "property"]),
          ⟨grouped b ts ++ .closing .square :: rest, .opening .square :: written, left?⟩) := by
    cases b <;> rfl
  have hwrite : (Reader.write [.word "property"]).run
      ⟨grouped b ts ++ .closing .square :: rest, .opening .square :: written, left?⟩
      = .ok ((), ⟨grouped b ts ++ .closing .square :: rest,
          .word "property" :: .opening .square :: written, left?⟩) := rfl
  have hgroup : (Reader.seesAny (Bracket.all.map .group)).run
      ⟨grouped b ts ++ .closing .square :: rest, .word "property" :: .opening .square :: written,
        left?⟩
      = .ok (true, ⟨grouped b ts ++ .closing .square :: rest,
          .word "property" :: .opening .square :: written, left?⟩) := by
    cases b <;> rfl
  have hlist : (((grouped b ts).reverse ++ []).reverse.drop 1).dropLast = ts := by
    simp [grouped]
  rw [Reader.run_bind_of_ok hpath]
  dsimp only
  rw [Reader.run_bind_of_ok hwrite, Reader.run_bind_of_ok hgroup, if_pos rfl,
    Reader.run_bind_of_ok (Reader.collect_run (Reader.anyGroup_run h))]
  dsimp only
  rw [hlist, List.append_nil, List.reverse_reverse]
  rfl

end AggregateRouting.Source
