import Mathlib.Tactic
import Mathlib.Data.List.AList

/-!
XML trees, as a parser links them, and the identifiers of a document.

* `Xml`: the nodes from one on: its children, and what is next to it.
* `Element`: an element with the place it stands at, by the indices on the way
  down from the document.
* `siblings`, `preorder`: the elements of a level, and of all levels in document
  order.
* `IdTable`: the element an identifier names. The first one to claim an
  identifier keeps it.
-/

namespace Xml

/-- The nodes from one on. A text is a text or a `CDATA` section, and `other` a
comment, an instruction or a declaration. -/
inductive Nodes where
  | nil
  | element (name : String) (attrs : List (String × String)) (children next : Nodes)
  | text (content : String) (next : Nodes)
  | other (next : Nodes)
deriving DecidableEq, Repr

/-- A place in a document: the indices on the way down. The document itself is
the empty one. -/
abbrev Path := List ℕ

/-- An element at its place. -/
structure Element where
  path : Path
  name : String
  attrs : List (String × String)
  children : Nodes
deriving DecidableEq, Repr

/-- The elements of one level, whose parent stands at the path and whose first
node is the given child. -/
def siblings (path : Path) : ℕ → Nodes → List Element
  | _, .nil => []
  | i, .element name attrs children next =>
      ⟨path ++ [i], name, attrs, children⟩ :: siblings path (i + 1) next
  | i, .text _ next => siblings path (i + 1) next
  | i, .other next => siblings path (i + 1) next

/-- The elements of all levels, in document order. -/
def preorder (path : Path) : ℕ → Nodes → List Element
  | _, .nil => []
  | i, .element name attrs children next =>
      ⟨path ++ [i], name, attrs, children⟩ :: (preorder (path ++ [i]) 0 children ++
        preorder path (i + 1) next)
  | i, .text _ next => preorder path (i + 1) next
  | i, .other next => preorder path (i + 1) next

/-- The text of all levels, in document order. -/
def content : Nodes → String
  | .nil => ""
  | .element _ _ children next => content children ++ content next
  | .text s next => s ++ content next
  | .other next => content next

/-- The children of an element. -/
def Element.elements (e : Element) : List Element := siblings e.path 0 e.children

/-- An attribute of an element, by its local name. -/
def Element.attr? (e : Element) (name : String) : Option String := e.attrs.lookup name

/-- The place of the element an identifier names. -/
abbrev IdTable := AList fun _ : String => Path

/-- An identifier claimed for a place. No identifier is empty, and the first
claim stands. -/
def IdTable.add (ids : IdTable) (id : String) (path : Path) : IdTable :=
  if id = "" ∨ id ∈ ids then ids else ids.insert id path

lemma IdTable.lookup_add (ids : IdTable) (id : String) (path : Path) (x : String) :
    (ids.add id path).lookup x
      = (ids.lookup x).or (if id = x ∧ x ≠ "" then some path else none) := by
  rw [IdTable.add]
  split
  · next hkept =>
      split
      · next hclaim =>
          obtain ⟨rfl, hne⟩ := hclaim
          obtain ⟨p, hp⟩ := Option.isSome_iff_exists.mp
            (AList.lookup_isSome.mpr (hkept.resolve_left hne))
          rw [hp, Option.some_or]
      · rw [Option.or_none]
  · next hnew =>
      rw [not_or] at hnew
      by_cases hx : id = x
      · subst hx
        rw [if_pos ⟨rfl, hnew.1⟩, AList.lookup_insert, AList.lookup_eq_none.mpr hnew.2,
          Option.none_or]
      · rw [if_neg fun h => hx h.1, AList.lookup_insert_ne (Ne.symm hx), Option.or_none]

/-- A document, with the identifiers its parser has registered. -/
structure Document where
  nodes : Nodes
  ids : IdTable

/-- The elements of a document, in document order. -/
def Document.elements (doc : Document) : List Element := preorder [] 0 doc.nodes

end Xml
