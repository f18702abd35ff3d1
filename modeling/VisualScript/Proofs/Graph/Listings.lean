import Mathlib.Data.List.Induction
import VisualScript.Proofs.Graph.Restoring

/-!
# Connections that are listed twice

A file lists a connection under the output it leaves and under the input it enters, and the
two sides need not agree. Each connection counts once, at the first place where it is listed,
and the outputs count before the inputs. So what was listed before can be left out of a file
without a trace.
-/

namespace VisualScript

/-! ## First appearances -/

section FirstAppearances

variable {α : Type} [DecidableEq α] {members additions : List α} {member : α}

theorem appendNew_of_mem (h : member ∈ members) : appendNew members member = members := by
  simp [appendNew, h]

theorem distinct_concat (members : List α) (member : α) :
    distinct (members ++ [member]) = appendNew (distinct members) member := by
  simp [distinct, appendAllNew]

theorem nodup_distinct (members : List α) : (distinct members).Nodup :=
  nodup_appendAllNew List.nodup_nil

/-- Members stay where they are in front of the additions. -/
theorem exists_appendAllNew_eq (members additions : List α) :
    ∃ news, appendAllNew members additions = members ++ news ∧ ∀ x ∈ news, x ∉ members := by
  induction additions generalizing members with
  | nil => exact ⟨[], by simp [appendAllNew], by simp⟩
  | cons addition rest ih =>
      by_cases hmem : addition ∈ members
      · obtain ⟨news, heq, hnews⟩ := ih members
        exact ⟨news, by simpa [appendAllNew, appendNew_of_mem hmem] using heq, hnews⟩
      · obtain ⟨news, heq, hnews⟩ := ih (members ++ [addition])
        refine ⟨addition :: news, by simpa [appendAllNew, appendNew, hmem] using heq, ?_⟩
        rw [List.forall_mem_cons]
        exact ⟨hmem, fun x hx hold => hnews x hx (List.mem_append_left _ hold)⟩

/-- Of two lists laid end to end, the first appearances in the second are left that are not in
the first. -/
theorem distinct_append (first second : List α) :
    distinct (first ++ second) =
      distinct first ++ (distinct second).filter (· ∉ first) := by
  have hlaid : distinct (first ++ second) = appendAllNew (distinct first) second := by
    simp [distinct, appendAllNew]
  obtain ⟨news, heq, hnews⟩ := exists_appendAllNew_eq (distinct first) second
  have hfilter := filter_appendAllNew (· ∉ first) (distinct first) second
  have hfirst : (distinct first).filter (· ∉ first) = [] := by
    simp [List.filter_eq_nil_iff, mem_distinct]
  have hsecond : news.filter (· ∉ first) = news := by
    simpa [List.filter_eq_self, mem_distinct] using hnews
  rw [heq, List.filter_append, hfirst, hsecond, List.nil_append] at hfilter
  rw [hlaid, heq, hfilter, filter_distinct]
  rfl

/-- Members come in the order of their first appearances. -/
theorem pairwise_distinct (members : List α) :
    (distinct members).Pairwise fun x y => members.idxOf x < members.idxOf y := by
  induction members using List.reverseRecOn with
  | nil => exact .nil
  | append_singleton members member ih =>
      have hkept : (distinct members).Pairwise fun x y =>
          (members ++ [member]).idxOf x < (members ++ [member]).idxOf y := by
        refine ih.imp_of_mem fun hx hy hless => ?_
        rw [mem_distinct] at hx hy
        simpa [List.idxOf_append_of_mem, hx, hy] using hless
      rw [distinct_concat, appendNew]
      split
      next => exact hkept
      next hnew =>
        rw [mem_distinct] at hnew
        refine List.pairwise_append.mpr ⟨hkept, List.pairwise_singleton _ _, ?_⟩
        intro x hx y hy
        rw [mem_distinct] at hx
        obtain rfl := List.mem_singleton.mp hy
        have hless := List.idxOf_lt_length_of_mem hx
        simpa [List.idxOf_append_of_mem, hx, List.idxOf_append_of_notMem, hnew] using hless

end FirstAppearances

/-! ## What a file lists -/

namespace EditorFile

/-- All that is listed under outputs, in the order of the file. -/
def outputListing (file : EditorFile) : List Link := file.nodes.values.flatMap outputLinks

/-- All that is listed under inputs, in the order of the file. -/
def inputListing (file : EditorFile) : List Link := file.nodes.values.flatMap inputLinks

/-- What is listed under inputs is added to what is listed under outputs. -/
theorem links_eq_appendAllNew (file : EditorFile) :
    file.links = appendAllNew (distinct file.outputListing) file.inputListing := by
  simp [links, outputListing, inputListing, distinct, appendAllNew]

/-- The connections of a file are each listed connection once: those listed under outputs as
they first appear there, then the others as they first appear under inputs. -/
structure ListsOnce (file : EditorFile) (firsts others : List Link) : Prop where
  divided : file.links = firsts ++ others
  once : file.links.Nodup
  outputs : ∀ link, link ∈ firsts ↔ link ∈ file.outputListing
  inputs : ∀ link, link ∈ others ↔ link ∈ file.inputListing ∧ link ∉ file.outputListing
  outputOrder : firsts.Pairwise fun link later =>
    file.outputListing.idxOf link < file.outputListing.idxOf later
  inputOrder : others.Pairwise fun link later =>
    file.inputListing.idxOf link < file.inputListing.idxOf later

theorem listsOnce (file : EditorFile) :
    file.ListsOnce (distinct file.outputListing)
      ((distinct file.inputListing).filter (· ∉ file.outputListing)) where
  divided := distinct_append _ _
  once := nodup_distinct _
  outputs _ := mem_distinct
  inputs _ := by simp [mem_distinct]
  outputOrder := pairwise_distinct _
  inputOrder := (pairwise_distinct _).filter _

end EditorFile

/-! ## Leaving out what is listed already -/

/-- A listing with some of its entries left out, of connections that were listed before or are
listed elsewhere. -/
inductive LeavesOut (elsewhere : List Link) : List Link → List Link → List Link → Prop where
  | done {before} : LeavesOut elsewhere before [] []
  | kept {before link rest others} (more : LeavesOut elsewhere (link :: before) rest others) :
      LeavesOut elsewhere before (link :: rest) (link :: others)
  | leftOut {before link rest others} (listed : link ∈ before ∨ link ∈ elsewhere)
      (more : LeavesOut elsewhere (link :: before) rest others) :
      LeavesOut elsewhere before (link :: rest) others

/-- What is left out adds nothing to connections that are known already. -/
theorem LeavesOut.appendAllNew_eq {elsewhere before listing others members : List Link}
    (h : LeavesOut elsewhere before listing others) (hbefore : before ⊆ members)
    (helsewhere : elsewhere ⊆ members) :
    appendAllNew members others = appendAllNew members listing := by
  induction h generalizing members with
  | done => rfl
  | @kept _ link _ _ _ ih =>
      have hmore : members ⊆ appendNew members link := fun _ hmem => mem_appendNew.mpr (.inl hmem)
      have hlink : link ∈ appendNew members link := mem_appendNew.mpr (.inr rfl)
      exact ih (List.cons_subset.mpr ⟨hlink, List.Subset.trans hbefore hmore⟩)
        (List.Subset.trans helsewhere hmore)
  | @leftOut _ link rest _ listed _ ih =>
      have hmem : link ∈ members := listed.elim (hbefore ·) (helsewhere ·)
      have hsame : appendAllNew members (link :: rest) = appendAllNew members rest := by
        simp [appendAllNew, appendNew_of_mem hmem]
      rw [hsame]
      exact ih (List.cons_subset.mpr ⟨hmem, hbefore⟩) helsewhere

/-- Ports under the same keys, with some of the connections listed under them. -/
def PortsThin (ports others : OrderedMap String FilePort) : Prop :=
  List.Forall₂ (fun port other => other.1 = port.1 ∧
    other.2.connections.Sublist port.2.connections) ports.entries others.entries

/-- A node of which a file lists fewer connections. -/
structure FileNode.Thins (node other : FileNode) : Prop where
  id : other.id = node.id
  name : other.name = node.name
  data : other.data = node.data
  position : other.position = node.position
  outputs : PortsThin node.outputs other.outputs
  inputs : PortsThin node.inputs other.inputs

/-- A file with some of the listed connections left out: of those under outputs only what is
listed under an output before, of those under inputs only what is listed under an input before
or anywhere under an output. -/
structure EditorFile.Thins (file other : EditorFile) : Prop where
  id : other.id = file.id
  nodes : List.Forall₂ (fun entry thin => thin.1 = entry.1 ∧ entry.2.Thins thin.2)
    file.nodes.entries other.nodes.entries
  outputs : LeavesOut [] [] file.outputListing other.outputListing
  inputs : LeavesOut file.outputListing [] file.inputListing other.inputListing

namespace EditorFile.Thins

variable {file other : EditorFile}

theorem links_eq (h : file.Thins other) : other.links = file.links := by
  have houtputs : distinct other.outputListing = distinct file.outputListing :=
    h.outputs.appendAllNew_eq (List.nil_subset _) (List.nil_subset _)
  rw [links_eq_appendAllNew, links_eq_appendAllNew, houtputs]
  exact h.inputs.appendAllNew_eq (List.nil_subset _) fun _ hmem => mem_distinct.mpr hmem

/-- What is read of a node apart from its ports is the same. -/
theorem map_values_eq {α : Type} (h : file.Thins other) {read : FileNode → α}
    (hread : ∀ node thin : FileNode, node.Thins thin → read thin = read node) :
    other.nodes.values.map read = file.nodes.values.map read := by
  have hnodes := h.nodes
  simp only [OrderedMap.values, List.map_map]
  generalize file.nodes.entries = entries at hnodes
  generalize other.nodes.entries = thins at hnodes
  induction hnodes with
  | nil => rfl
  | cons hfirst _ ih => simp [ih, hread _ _ hfirst.2]

end EditorFile.Thins

namespace Language

variable {file other : EditorFile}

theorem restoreNodes_eq_foldlM (language : Language) (file : EditorFile) :
    language.restoreNodes file =
      (file.nodes.values.map language.restoreNode).foldlM (fun graph node => graph.insert node)
        .empty := by
  rw [List.foldlM_map]
  rfl

theorem unknownNodes_eq_map (language : Language) (file : EditorFile) :
    language.unknownNodes file =
      ((file.nodes.values.map fun node => (node.id, node.name)).filter fun entry =>
        !language.catalog.contains entry.2).map fun entry =>
          .unknownComponent ⟨entry.1⟩ entry.2 := by
  simp [unknownNodes, List.filter_map, Function.comp_def]

/-- Every language makes the same of a file that lists less. -/
theorem restore_eq_of_thins (language : Language) (h : file.Thins other) :
    language.restore other = language.restore file := by
  have hnodes : language.restoreNodes other = language.restoreNodes file := by
    rw [restoreNodes_eq_foldlM, restoreNodes_eq_foldlM, h.map_values_eq]
    intro node thin hthin
    simp only [restoreNode, hthin.id, hthin.name, hthin.data, hthin.position]
  have hunknown : language.unknownNodes other = language.unknownNodes file := by
    rw [unknownNodes_eq_map, unknownNodes_eq_map, h.map_values_eq]
    intro node thin hthin
    rw [hthin.id, hthin.name]
  simp only [restore, hnodes, hunknown, h.links_eq]

/-- A file gives each connection that it lists once, outputs first. What is listed already can
be left out, and every language loads the same graph with the same notices, or fails alike. -/
theorem load_eq_of_thins (file : EditorFile) :
    (∃ firsts others, file.ListsOnce firsts others) ∧
      ∀ other, file.Thins other → other.links = file.links ∧ ∀ language : Language,
        language.restore other = language.restore file ∧ ∀ document thinned,
          EditorFile.parse document = .ok file → EditorFile.parse thinned = .ok other →
            language.load thinned = language.load document := by
  refine ⟨⟨_, _, file.listsOnce⟩, fun other hthins => ⟨hthins.links_eq, fun language => ?_⟩⟩
  have hrestore := language.restore_eq_of_thins hthins
  refine ⟨hrestore, fun document thinned hfile hother => ?_⟩
  rw [load_eq_restore hfile, load_eq_restore hother, hrestore]

end Language

/-! ## A chain that is listed twice -/

/-- What a file tells of a node, of its data only the names of the fields. -/
structure FileNode.Contents where
  id : Nat
  name : String
  fields : List String
  inputs : OrderedMap String FilePort
  outputs : OrderedMap String FilePort
  position : Option Position
  deriving DecidableEq

def FileNode.contents (node : FileNode) : FileNode.Contents :=
  ⟨node.id, node.name, node.data.keys, node.inputs, node.outputs, node.position⟩

theorem FileNode.eq_of_contents {node other : FileNode} (h : node.contents = other.contents)
    (hbare : other.data = .empty) : node = other := by
  obtain ⟨_, _, ⟨data⟩, _, _, _⟩ := node
  obtain ⟨_, _, _, _, _, _⟩ := other
  subst hbare
  simpa [contents, OrderedMap.keys, OrderedMap.empty] using h

/-- What a file tells, of the data of its nodes only the names of the fields. -/
def EditorFile.contents (file : EditorFile) : String × List (String × FileNode.Contents) :=
  (file.id, file.nodes.entries.map fun entry => (entry.1, entry.2.contents))

theorem EditorFile.entries_eq {entries others : List (String × FileNode)}
    (h : entries.map (fun entry => (entry.1, entry.2.contents)) =
      others.map fun entry => (entry.1, entry.2.contents))
    (hbare : ∀ entry ∈ others, entry.2.data = .empty) : entries = others := by
  induction others generalizing entries with
  | nil => exact List.map_eq_nil_iff.mp h
  | cons other others ih =>
      obtain ⟨entry, rest, rfl, hfirst, hrest⟩ := List.map_eq_cons_iff.mp h
      obtain ⟨hkey, hnode⟩ := Prod.mk.inj hfirst
      rw [List.forall_mem_cons] at hbare
      rw [Prod.ext hkey (FileNode.eq_of_contents hnode hbare.1), ih hrest hbare.2]

/-- A file whose nodes have no data is known by the rest. -/
theorem EditorFile.eq_of_contents {file other : EditorFile} (h : file.contents = other.contents)
    (hbare : ∀ entry ∈ other.nodes.entries, entry.2.data = .empty) : file = other := by
  obtain ⟨hid, hnodes⟩ := Prod.mk.inj h
  have hentries := entries_eq hnodes hbare
  exact congr (congrArg EditorFile.mk hid) (congrArg OrderedMap.mk hentries)

/-- A chain of two variables and a call, with what is listed under their ports. -/
def chainFile (first second result : List LinkEnd) : EditorFile where
  nodes := ⟨[
    ("1", { id := 1, name := "Variable", inputs := ⟨[("value", ⟨first⟩)]⟩ }),
    ("2", { id := 2, name := "Variable", inputs := ⟨[("value", ⟨second⟩)]⟩
            outputs := ⟨[("result", ⟨result⟩)]⟩ }),
    ("3", { id := 3, name := "next" })]⟩

/-- The document of such a chain. -/
def chainDocument (first second result : String) : String :=
  "\x7b\"nodes\":\x7b\"1\":\x7b\"id\":1,\"name\":\"Variable\",\"inputs\":\x7b" ++
  "\"value\":\x7b\"connections\":[" ++ first ++ "]\x7d\x7d\x7d," ++
  "\"2\":\x7b\"id\":2,\"name\":\"Variable\",\"inputs\":\x7b" ++
  "\"value\":\x7b\"connections\":[" ++ second ++ "]\x7d\x7d,\"outputs\":\x7b" ++
  "\"result\":\x7b\"connections\":[" ++ result ++ "]\x7d\x7d\x7d," ++
  "\"3\":\x7b\"id\":3,\"name\":\"next\"\x7d\x7d\x7d"

/-- The first variable is wired on both sides, and the other ends are listed twice. -/
def doubledChain : String :=
  chainDocument "\x7b\"node\":2,\"output\":\"result\"\x7d"
    ("\x7b\"node\":3,\"output\":\"result\"\x7d," ++ "\x7b\"node\":3,\"output\":\"result\"\x7d")
    ("\x7b\"node\":1,\"input\":\"value\"\x7d," ++ "\x7b\"node\":1,\"input\":\"value\"\x7d")

/-- The same chain with each connection listed once. -/
def thinChain : String :=
  chainDocument "" "\x7b\"node\":3,\"output\":\"result\"\x7d"
    "\x7b\"node\":1,\"input\":\"value\"\x7d"

theorem parse_chain {document : String} {first second result : List LinkEnd}
    (h : (EditorFile.parse document).toOption.map EditorFile.contents =
      some (chainFile first second result).contents) :
    EditorFile.parse document = .ok (chainFile first second result) := by
  obtain ⟨file, hfile, hcontents⟩ := Option.map_eq_some_iff.mp h
  have hbare : ∀ entry ∈ (chainFile first second result).nodes.entries,
      entry.2.data = .empty := by
    simp [chainFile]
  obtain rfl := EditorFile.eq_of_contents hcontents hbare
  exact Language.eq_ok_of_toOption hfile

theorem parse_doubledChain : EditorFile.parse doubledChain =
    .ok (chainFile [⟨2, "result"⟩] [⟨3, "result"⟩, ⟨3, "result"⟩]
      [⟨1, "value"⟩, ⟨1, "value"⟩]) := by
  apply parse_chain
  unfold EditorFile.parse Json.readDocument doubledChain chainDocument
  simp only [String.toList_append]
  decide +kernel

theorem parse_thinChain : EditorFile.parse thinChain =
    .ok (chainFile [] [⟨3, "result"⟩] [⟨1, "value"⟩]) := by
  apply parse_chain
  unfold EditorFile.parse Json.readDocument thinChain chainDocument
  simp only [String.toList_append]
  decide +kernel

theorem thins_chainFile : (chainFile [⟨2, "result"⟩] [⟨3, "result"⟩, ⟨3, "result"⟩]
    [⟨1, "value"⟩, ⟨1, "value"⟩]).Thins (chainFile [] [⟨3, "result"⟩] [⟨1, "value"⟩]) where
  id := rfl
  nodes := by
    have hnone : PortsThin .empty .empty := .nil
    refine .cons ⟨rfl, rfl, rfl, rfl, rfl, hnone, ?_⟩ (.cons ⟨rfl, rfl, rfl, rfl, rfl, ?_, ?_⟩
      (.cons ⟨rfl, rfl, rfl, rfl, rfl, hnone, hnone⟩ .nil))
    · exact .cons ⟨rfl, by simp⟩ .nil
    · exact .cons ⟨rfl, by simp⟩ .nil
    · exact .cons ⟨rfl, by simp⟩ .nil
  outputs := .kept (.leftOut (by simp) .done)
  inputs := .leftOut (.inr (by decide)) (.kept (.leftOut (by simp) .done))

namespace Language

/-- Both documents of the chain give one graph. -/
theorem load_eq_of_thins_doubledChain : ∃ file other : EditorFile, file.Thins other ∧
    EditorFile.parse doubledChain = .ok file ∧ EditorFile.parse thinChain = .ok other ∧
      counting.load thinChain = counting.load doubledChain := by
  refine ⟨_, _, thins_chainFile, parse_doubledChain, parse_thinChain, ?_⟩
  obtain ⟨_, hload⟩ := ((load_eq_of_thins _).2 _ thins_chainFile).2 counting
  exact hload _ _ parse_doubledChain parse_thinChain

end Language

end VisualScript
