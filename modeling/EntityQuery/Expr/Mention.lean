import EntityQuery.Expr.Preorder
import EntityQuery.Model.Mention
/-!
# `Expr.Mention` — which relationships an expression keeps

An expression mentions what its nodes mention: their types, and the model data they hold. A walk keeps the
relationship it goes over, and a navigation property the one it walks. The ends that a related entity names
keep nothing but their entities.
-/

namespace EntityQuery

/-- Whether the relationship `id` can be reached through what a node holds beside its children. -/
def Node.mentions {ε : Type} (id : Handle) : Node ε → Bool
  | property member _ => member.mentions id
  | function f _ => f.mentions id
  | lambda l _ => l.formals.any (·.type.mentions id)
  | navigation r fromEnd toEnd _ => r.mentions id || fromEnd.mentions id || toEnd.mentions id
  | newInstance _ related => related.any fun r => r.source.mentions id || r.target.mentions id
  | ref set _ => set.entity.mentions id
  | scan extent => extent.mentions id
  | filter input _ => input.element.type.mentions id
  | project input _ => input.element.type.mentions id
  | constant _ | null | variableReference _ | parameterReference _ | deref _ | comparison _ _ _
  | and _ _ | or _ _ | not _ | isNull _ => false

namespace Expr

/-- Whether the relationship `id` can be reached through the node at the top of an expression. -/
def topMentions (id : Handle) (e : Expr) : Bool := e.type.mentions id || e.node.mentions id

/-- Notes whether one of the nodes met so far mentions the relationship `id`. -/
def noteMention (id : Handle) (found : Bool) (e : Expr) : Bool := found || e.topMentions id

/-- Whether the relationship `id` can be reached through an expression. -/
def mentions (id : Handle) (e : Expr) : Bool := e.visit (noteMention id) false

/-- An expression mentions what one of its nodes mentions. -/
theorem mentions_eq_any (id : Handle) (e : Expr) : e.mentions id = e.preorder.any (topMentions id) := by
  have h (ns : List Expr) (found : Bool) :
      ns.foldl (noteMention id) found = (found || ns.any (topMentions id)) := by
    induction ns generalizing found with
    | nil => simp
    | cons n ns ih => rw [List.foldl_cons, ih, noteMention, List.any_cons, Bool.or_assoc]
  rw [mentions, visit_eq_foldl_preorder, h, Bool.false_or]

/-- An expression mentions what its top node or one of its children mentions. -/
theorem mentions_eq (id : Handle) (e : Expr) :
    e.mentions id = (e.topMentions id || e.children.any (mentions id)) := by
  rw [mentions_eq_any, preorder_eq, List.any_cons, List.any_flatMap, funext (mentions_eq_any id)]

end Expr

/-- Whether the relationship `id` can be reached through a lambda. -/
def LambdaOf.mentions (id : Handle) (l : LambdaOf Expr) : Bool :=
  l.formals.any (·.type.mentions id) || l.body.mentions id

/-- Whether the relationship `id` can be reached through a binding. -/
def BindingOf.mentions (id : Handle) (b : BindingOf Expr) : Bool :=
  b.source.mentions id || b.element.type.mentions id

/-- Whether the relationship `id` can be reached through a related entity; its ends keep only their
    entities. -/
def RelatedOf.mentions (id : Handle) (r : RelatedOf Expr) : Bool :=
  r.source.mentions id || r.target.mentions id || r.reference.mentions id

end EntityQuery
