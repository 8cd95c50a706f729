import ScriptGlue.OrderedMap
import ScriptGlue.Symbol.Basic

/-!
# Groups of overloads

Members of one name whose documentation is shown together. A group has a head; the grouped symbols are
kept apart from the symbols themselves, as a map from each grouped symbol to its head and a map from each
head to the symbols grouped under it. A head joins no other group and a grouped symbol heads none.
-/

namespace ScriptGlue

/-- The groups of symbols, all named by their identifiers. -/
structure OverloadGroups where
  /-- The head of each grouped symbol. -/
  heads : OrderedMap String := ∅
  /-- The symbols grouped under each head, in the order in which they joined. -/
  others : OrderedMap (List String) := ∅

namespace OverloadGroups

/-- The symbols grouped under the given one. -/
def othersOf (g : OverloadGroups) (id : String) : List String := g.others.getD id []

/-- The symbol is grouped under another. -/
def isGrouped (g : OverloadGroups) (id : String) : Bool := g.heads.contains id

/-- Some symbol is grouped under the given one. -/
def isHead (g : OverloadGroups) (id : String) : Bool := !(g.othersOf id).isEmpty

/-- The symbol may join the group of `head`. -/
def canLink (g : OverloadGroups) (id head : String) : Bool :=
  id != head && !g.isGrouped id && !g.isGrouped head && !g.isHead id

/-- The groups after the symbol has joined that of `head`, if it may. -/
def link? (g : OverloadGroups) (id head : String) : Option OverloadGroups :=
  if g.canLink id head then
    some { heads := g.heads.insert id head, others := g.others.insert head (g.othersOf head ++ [id]) }
  else none

/-- The groups after the symbol has joined that of `head`, or unchanged if it may not. -/
def link (g : OverloadGroups) (id head : String) : OverloadGroups := (g.link? id head).getD g

/-- The head of the group that the symbol has joined; a head without an identifier is not found. -/
def headOf? (g : OverloadGroups) (id : String) : Option String := (g.heads.get? id).filter (!·.isEmpty)

/-- The number of grouped symbols. -/
def size (g : OverloadGroups) : Nat := g.heads.size

/-! ### Grouping by documentation -/

/-- The symbol is shown with an earlier overload: it is not described, or it asks for it. -/
def joinsEarlier (s : Symbol) : Bool := !s.hasComments || s.groupSyntax

/-- The groups after the symbols have been tried in order as followers of `master`, and the number of
links made. A described overload ends the search. -/
def joinFollowers (master : Symbol) : List Symbol → OverloadGroups → OverloadGroups × Nat
  | [], g => (g, 0)
  | s :: rest, g =>
    if g.isGrouped master.id || g.isGrouped s.id || g.isHead s.id || master.name != s.name then
      joinFollowers master rest g
    else if joinsEarlier s then
      match g.link? s.id master.id with
      | some g => let (g, n) := joinFollowers master rest g; (g, n + 1)
      | none => joinFollowers master rest g
    else (g, 0)

/-- The groups after every symbol has been tried as a master of those after it, and the number of links
made. -/
def groupSiblings : List Symbol → OverloadGroups → OverloadGroups × Nat
  | [], g => (g, 0)
  | s :: rest, g =>
    let (g, n) := joinFollowers s rest g
    let (g, m) := groupSiblings rest g
    (g, n + m)

/-- The members of the compound are grouped. -/
def isGroupedKind (kind : String) : Bool := kind == "class" || kind == "struct"

/-- The groups after the members of every class have been grouped, and the number of links made. -/
def groupAll : List Compound → OverloadGroups → OverloadGroups × Nat
  | [], g => (g, 0)
  | c :: rest, g =>
    let (g, n) := if isGroupedKind c.kind then groupSiblings (c.members.map (·.toSymbol)) g else (g, 0)
    let (g, m) := groupAll rest g
    (g, n + m)

end OverloadGroups

end ScriptGlue
