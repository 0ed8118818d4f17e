import HostBridge.Document.Reader
import HostBridge.Proofs.Document.Ordered

/-!
# Documents are ordered

A tree under construction holds tables only as branches, never as values that are written as a
whole. So every table of the document that a text describes is made by `Table.insert`, and is
sorted.
-/

namespace HostBridge

namespace Node

/-- Whether the values that a node holds as a whole are no arrays and no tables. -/
inductive Built : Node → Prop where
  | string (text : String) : Built (.leaf (.string text))
  | integer (number : Int64) : Built (.leaf (.integer number))
  | float (number : Binary64) : Built (.leaf (.float number))
  | boolean (truth : Bool) : Built (.leaf (.boolean truth))
  | datetime (datetime : Datetime) : Built (.leaf (.datetime datetime))
  | array {elements : List Node} (h : ∀ element ∈ elements, Built element) : Built (.array elements)
  | table {origin : Origin} {entries : Branch} (h : ∀ entry ∈ entries, Built entry.2) :
      Built (.table origin entries)
  | tables {closed : List Node} {last : Branch} (hclosed : ∀ element ∈ closed, Built element)
      (hlast : ∀ entry ∈ last, Built entry.2) : Built (.tables closed last)

end Node

namespace Branch

def Built (branch : Branch) : Prop := ∀ entry ∈ branch, entry.2.Built

end Branch

theorem Branch.value?_ordered {branch : Branch} {table : Option Table} {value : Value}
    (htable : ∀ entries, table = some entries → Table.Ordered entries)
    (h : branch.value? table = some value) : value.Ordered := by
  rw [Branch.value?] at h
  split at h
  · obtain ⟨datetime, -, rfl⟩ := Option.map_eq_some_iff.mp h
    exact .datetime datetime
  · obtain ⟨entries, hentries, rfl⟩ := Option.map_eq_some_iff.mp h
    obtain ⟨hsorted, hvalues⟩ := htable entries hentries
    exact .table hsorted hvalues

mutual

theorem Node.toValue?_ordered :
    ∀ {node : Node} {value : Value}, node.Built → node.toValue? = some value → value.Ordered
  | .leaf _, value, hbuilt, h => by
    cases h
    cases hbuilt with
    | string text => exact .string text
    | integer number => exact .integer number
    | float number => exact .float number
    | boolean truth => exact .boolean truth
    | datetime datetime => exact .datetime datetime
  | .array elements, value, hbuilt, h => by
    cases hbuilt with
    | array helements =>
        obtain ⟨values, hvalues, rfl⟩ := Option.map_eq_some_iff.mp h
        exact .array (Node.toValues?_ordered helements hvalues)
  | .table _ entries, value, hbuilt, h => by
    cases hbuilt with
    | table hentries =>
        exact Branch.value?_ordered (fun _ => Branch.toTable?_ordered hentries) h
  | .tables closed last, value, hbuilt, h => by
    cases hbuilt with
    | tables hclosed hlast =>
        rw [Node.toValue?] at h
        obtain ⟨elements, helements, h⟩ := Option.bind_eq_some_iff.mp h
        obtain ⟨element, helement, h⟩ := Option.bind_eq_some_iff.mp h
        cases h
        have hordered := Branch.value?_ordered (fun _ => Branch.toTable?_ordered hlast) helement
        refine .array fun value hvalue => ?_
        rcases List.mem_append.mp hvalue with hmem | hmem
        · exact Node.toValues?_ordered hclosed helements value hmem
        · exact List.mem_singleton.mp hmem ▸ hordered

theorem Node.toValues?_ordered :
    ∀ {nodes : List Node} {values : List Value}, (∀ node ∈ nodes, node.Built) →
      Node.toValues? nodes = some values → ∀ value ∈ values, value.Ordered
  | [], values, _, h => by
    cases h
    exact nofun
  | node :: rest, values, hbuilt, h => by
    rw [Node.toValues?] at h
    obtain ⟨value, hvalue, h⟩ := Option.bind_eq_some_iff.mp h
    obtain ⟨others, hothers, h⟩ := Option.bind_eq_some_iff.mp h
    cases h
    obtain ⟨hnode, hrest⟩ := List.forall_mem_cons.mp hbuilt
    exact List.forall_mem_cons.mpr
      ⟨Node.toValue?_ordered hnode hvalue, Node.toValues?_ordered hrest hothers⟩

theorem Branch.toTable?_ordered :
    ∀ {branch : List (String × Node)} {table : Table}, Branch.Built branch →
      Branch.toTable? branch = some table → Table.Ordered table
  | [], table, _, h => by
    cases h
    exact .nil
  | (key, node) :: rest, table, hbuilt, h => by
    rw [Branch.toTable?] at h
    obtain ⟨value, hvalue, h⟩ := Option.bind_eq_some_iff.mp h
    obtain ⟨others, hothers, h⟩ := Option.bind_eq_some_iff.mp h
    cases h
    obtain ⟨hnode, hrest⟩ := List.forall_mem_cons.mp hbuilt
    exact (Branch.toTable?_ordered hrest hothers).insert (Node.toValue?_ordered hnode hvalue)

end

namespace Branch

variable {branch : Branch} {key : String} {node : Node}

theorem Built.nil : Built [] := fun _ hentry => nomatch hentry

theorem Built.find? (h : Built branch) (hfind : branch.find? key = some node) : node.Built := by
  obtain ⟨before, after, rfl, -⟩ := List.lookup_eq_some_iff.mp hfind
  exact h (key, node) (List.mem_append_right before List.mem_cons_self)

theorem Built.put (h : Built branch) (hnode : node.Built) : Built (branch.put key node) := by
  induction branch with
  | nil => exact fun entry hentry => List.mem_singleton.mp hentry ▸ hnode
  | cons first rest ih =>
      obtain ⟨hfirst, hrest⟩ := List.forall_mem_cons.mp h
      rw [Branch.put]
      split
      · exact List.forall_mem_cons.mpr ⟨hnode, hrest⟩
      · exact List.forall_mem_cons.mpr ⟨hfirst, ih hrest⟩

theorem Built.putLast (h : Built branch) (hnode : node.Built) : Built (branch.putLast key node) := by
  intro entry hentry
  rcases List.mem_append.mp hentry with hmem | hmem
  · exact h entry ((List.mem_filter.mp hmem).1)
  · exact List.mem_singleton.mp hmem ▸ hnode

/-- Whether a change of branches keeps them built. -/
def KeepsBuilt (change : Branch → Option Branch) : Prop :=
  ∀ {branch branch' : Branch}, Built branch → change branch = some branch' → Built branch'

theorem keepsBuilt_openTable (key : String) : KeepsBuilt (openTable key) := by
  intro branch branch' hbuilt h
  rw [openTable] at h
  split at h
  · cases h
    exact hbuilt.put (.table Built.nil)
  next inner hfind =>
    cases h
    cases hbuilt.find? hfind with
    | table hinner => exact hbuilt.putLast (.table hinner)
  · cases h

theorem keepsBuilt_openElement (key : String) : KeepsBuilt (openElement key) := by
  intro branch branch' hbuilt h
  rw [openElement] at h
  split at h
  · cases h
    exact hbuilt.put (.tables nofun Built.nil)
  next closed last hfind =>
    cases h
    cases hbuilt.find? hfind with
    | tables hclosed hlast =>
        refine hbuilt.put (.tables (fun element helement => ?_) Built.nil)
        rcases List.mem_append.mp helement with hmem | hmem
        · exact hclosed element hmem
        · exact List.mem_singleton.mp hmem ▸ .table hlast
  · cases h

theorem keepsBuilt_define (key : String) (hnode : node.Built) : KeepsBuilt (define key node) := by
  intro branch branch' hbuilt h
  rw [define] at h
  split at h
  · cases h
    exact hbuilt.put hnode
  · cases h

theorem keepsBuilt_atHeader {change : Branch → Option Branch} (hchange : KeepsBuilt change)
    (path : List String) : KeepsBuilt (atHeader change path) := by
  intro branch branch' hbuilt h
  induction path generalizing branch branch' with
  | nil => exact hchange hbuilt h
  | cons key path ih =>
      rw [atHeader] at h
      split at h
      · obtain ⟨inner, hinner, rfl⟩ := Option.map_eq_some_iff.mp h
        exact hbuilt.put (.table (ih .nil hinner))
      · cases h
      · cases h
      · cases h
      next origin inner hfind =>
        obtain ⟨inner', hinner', rfl⟩ := Option.map_eq_some_iff.mp h
        cases hbuilt.find? hfind with
        | table hinner => exact hbuilt.put (.table (ih hinner hinner'))
      next closed last hfind =>
        obtain ⟨last', hlast', rfl⟩ := Option.map_eq_some_iff.mp h
        cases hbuilt.find? hfind with
        | tables hclosed hlast => exact hbuilt.put (.tables hclosed (ih hlast hlast'))

theorem keepsBuilt_defineBelow (key : String) (hnode : node.Built) (origin : Origin)
    (path : List String) : KeepsBuilt (defineBelow key node origin path) := by
  intro branch branch' hbuilt h
  induction path generalizing origin branch branch' with
  | nil =>
      rw [defineBelow] at h
      split at h
      · exact keepsBuilt_define key hnode hbuilt h
      · cases h
  | cons next path ih =>
      rw [defineBelow] at h
      split at h
      · obtain ⟨inner, hinner, rfl⟩ := Option.map_eq_some_iff.mp h
        exact hbuilt.put (.table (ih _ .nil hinner))
      · cases h
      · cases h
      · cases h
      · cases h
      next inner hfind =>
        obtain ⟨inner', hinner', rfl⟩ := Option.map_eq_some_iff.mp h
        cases hbuilt.find? hfind with
        | table hinner => exact hbuilt.put (.table (ih _ hinner hinner'))
      next closed last hfind =>
        obtain ⟨last', hlast', rfl⟩ := Option.map_eq_some_iff.mp h
        cases hbuilt.find? hfind with
        | tables hclosed hlast => exact hbuilt.put (.tables hclosed (ih _ hlast hlast'))

theorem keepsBuilt_assign (path : List String) (key : String) (hnode : node.Built) :
    KeepsBuilt (assign path key node) := by
  intro branch branch' hbuilt h
  rw [assign] at h
  split at h
  · exact keepsBuilt_define key hnode hbuilt h
  · exact keepsBuilt_defineBelow key hnode .header path hbuilt h

end Branch

def Statement.Built : Statement → Prop
  | .assign _ value => value.Built
  | .header _ | .element _ => True

namespace Reader

open Scan

/-- Whether a scanner yields only nodes without arrays or tables written as a whole. -/
def YieldsBuilt (scan : Scanner Node) : Prop :=
  ∀ {text node rest}, scan text = some (node, rest) → node.Built

theorem leaf?_built : YieldsBuilt leaf? := by
  intro text node rest h
  obtain ⟨⟨value, rest'⟩, hplain, hnode⟩ := Option.map_eq_some_iff.mp h
  cases hnode
  rw [plain?] at hplain
  split at hplain
  · cases hplain
    exact .string _
  split at hplain
  · cases hplain
    exact .datetime _
  split at hplain
  · cases hplain
    exact .float _
  split at hplain
  · cases hplain
    exact .integer _
  split at hplain
  · cases hplain
    exact .boolean true
  · obtain ⟨rest', -, hfalse⟩ := Option.map_eq_some_iff.mp hplain
    cases hfalse
    exact .boolean false

theorem elements?_built {value? : Nat → Scanner Node} (hvalue : ∀ fuel, YieldsBuilt (value? fuel))
    (fuel : Nat) {text rest : List Char} {nodes : List Node}
    (h : elements? value? fuel text = some (nodes, rest)) : ∀ node ∈ nodes, node.Built := by
  induction fuel generalizing text rest nodes with
  | zero => cases h
  | succ fuel ih =>
      rw [elements?] at h
      obtain ⟨text', -, h⟩ := Option.bind_eq_some_iff.mp h
      split at h
      · cases h
        exact nofun
      obtain ⟨⟨node, text'⟩, hnode, h⟩ := Option.bind_eq_some_iff.mp h
      obtain ⟨text', -, h⟩ := Option.bind_eq_some_iff.mp h
      split at h
      · obtain ⟨⟨others, text'⟩, hothers, h⟩ := Option.bind_eq_some_iff.mp h
        cases h
        exact List.forall_mem_cons.mpr ⟨hvalue fuel hnode, ih hothers⟩
      · cases h
        exact List.forall_mem_cons.mpr ⟨hvalue fuel hnode, nofun⟩
      · cases h

theorem assignments?_built {value? : Nat → Scanner Node}
    (hvalue : ∀ fuel, YieldsBuilt (value? fuel)) (fuel : Nat) {branch branch' : Branch}
    {text rest : List Char} (hbuilt : branch.Built)
    (h : assignments? value? branch fuel text = some (branch', rest)) : branch'.Built := by
  induction fuel generalizing branch text with
  | zero => cases h
  | succ fuel ih =>
      rw [assignments?] at h
      obtain ⟨⟨key, text'⟩, -, h⟩ := Option.bind_eq_some_iff.mp h
      obtain ⟨text', -, h⟩ := Option.bind_eq_some_iff.mp h
      obtain ⟨⟨node, text'⟩, hnode, h⟩ := Option.bind_eq_some_iff.mp h
      obtain ⟨assigned, hassigned, h⟩ := Option.bind_eq_some_iff.mp h
      have hnext := Branch.keepsBuilt_assign key.path key.last (hvalue fuel hnode) hbuilt hassigned
      split at h
      · exact ih hnext h
      · cases h
        exact hnext
      · cases h

theorem value?_built (depth fuel : Nat) : YieldsBuilt (value? depth fuel) := by
  induction depth generalizing fuel with
  | zero => exact leaf?_built
  | succ depth ih =>
      intro text node rest h
      rw [value?.eq_def] at h
      dsimp only at h
      split at h
      · obtain ⟨⟨nodes, rest'⟩, hnodes, heq⟩ := Option.map_eq_some_iff.mp h
        cases heq
        exact .array (elements?_built ih fuel hnodes)
      · split at h
        · cases h
          exact .table Branch.Built.nil
        · obtain ⟨⟨branch, rest'⟩, hbranch, heq⟩ := Option.map_eq_some_iff.mp h
          cases heq
          exact .table (assignments?_built ih fuel Branch.Built.nil hbranch)
      · exact leaf?_built h

theorem assignment?_built {fuel : Nat} {text rest : List Char} {statement : Statement}
    (h : assignment? fuel text = some (statement, rest)) : statement.Built := by
  obtain ⟨⟨key, text'⟩, -, h⟩ := Option.bind_eq_some_iff.mp h
  obtain ⟨text', -, h⟩ := Option.bind_eq_some_iff.mp h
  obtain ⟨⟨node, text'⟩, hnode, h⟩ := Option.bind_eq_some_iff.mp h
  cases h
  exact value?_built _ _ hnode

theorem statement?_built {fuel : Nat} {text rest : List Char} {statement : Statement}
    (h : statement? fuel text = some (statement, rest)) : statement.Built := by
  rw [statement?.eq_def] at h
  split at h
  · obtain ⟨⟨key, text'⟩, -, h⟩ := Option.bind_eq_some_iff.mp h
    obtain ⟨text', -, h⟩ := Option.bind_eq_some_iff.mp h
    cases h
    trivial
  · obtain ⟨⟨key, text'⟩, -, h⟩ := Option.bind_eq_some_iff.mp h
    obtain ⟨text', -, h⟩ := Option.bind_eq_some_iff.mp h
    cases h
    trivial
  · exact assignment?_built h

theorem statements?_built (fuel : Nat) {text : List Char} {statements : List Statement}
    (h : statements? fuel text = some statements) : ∀ statement ∈ statements, statement.Built := by
  induction fuel generalizing text statements with
  | zero => cases h
  | succ fuel ih =>
      rw [statements?] at h
      split at h
      · cases h
        exact nofun
      · obtain ⟨rest, -, h⟩ := Option.bind_eq_some_iff.mp h
        exact ih h
      · exact ih h
      · obtain ⟨rest, -, h⟩ := Option.bind_eq_some_iff.mp h
        exact ih h
      · obtain ⟨⟨statement, rest⟩, hstatement, h⟩ := Option.bind_eq_some_iff.mp h
        obtain ⟨rest', -, h⟩ := Option.bind_eq_some_iff.mp h
        obtain ⟨others, hothers, h⟩ := Option.bind_eq_some_iff.mp h
        cases h
        exact List.forall_mem_cons.mpr ⟨statement?_built hstatement, ih hothers⟩

theorem build?_built {header : List String} {branch branch' : Branch} {statements : List Statement}
    (hstatements : ∀ statement ∈ statements, statement.Built) (hbuilt : branch.Built)
    (h : build? header branch statements = some branch') : branch'.Built := by
  induction statements generalizing header branch with
  | nil =>
      cases h
      exact hbuilt
  | cons statement rest ih =>
      obtain ⟨hstatement, hrest⟩ := List.forall_mem_cons.mp hstatements
      cases statement with
      | header key =>
          obtain ⟨next, hnext, h⟩ := Option.bind_eq_some_iff.mp h
          exact ih hrest (Branch.keepsBuilt_atHeader (Branch.keepsBuilt_openTable _) _ hbuilt hnext) h
      | element key =>
          obtain ⟨next, hnext, h⟩ := Option.bind_eq_some_iff.mp h
          exact ih hrest
            (Branch.keepsBuilt_atHeader (Branch.keepsBuilt_openElement _) _ hbuilt hnext) h
      | assign key value =>
          obtain ⟨next, hnext, h⟩ := Option.bind_eq_some_iff.mp h
          exact ih hrest
            (Branch.keepsBuilt_atHeader (Branch.keepsBuilt_assign _ _ hstatement) _ hbuilt hnext) h

/-- Every table of a document is sorted, at every depth. -/
theorem document?_ordered {text : String} {document : Table} (h : document? text = some document) :
    Table.Ordered document := by
  obtain ⟨statements, hstatements, h⟩ := Option.bind_eq_some_iff.mp h
  obtain ⟨branch, hbranch, h⟩ := Option.bind_eq_some_iff.mp h
  refine Branch.toTable?_ordered ?_ h
  exact build?_built (statements?_built _ hstatements) Branch.Built.nil hbranch

end Reader

end HostBridge
