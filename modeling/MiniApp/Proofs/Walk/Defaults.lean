import MiniApp.Proofs.Props.Default
import MiniApp.Proofs.Table
import MiniApp.Proofs.Walk.Congruence

set_option autoImplicit false

namespace MiniApp

namespace Node

def withoutNulls (n : Node) : Fields := Props.withoutNulls n.props

def defaults (n : Node) : Fields := (n.entry?.map Entry.defaults).getD []

def withDefaults (chosen : String → Bool) (n : Node) : Fields :=
  Props.withDefaults chosen n.defaults n.props

variable (n : Node)

theorem alike_withProps {props : Fields}
    (h : ∀ e, n.entry? = some e → Props.SameReadings ⟨n.props, e.defaults⟩ ⟨props, e.defaults⟩) :
    n.Alike { n with props := props } where
  toParallel := n.parallel_withProps props
  props e he := (h e he).alike

theorem alike_withoutNulls : n.Alike { n with props := n.withoutNulls } :=
  n.alike_withProps fun _ _ => (Props.sameReadings_withoutNulls ..).symm

theorem alike_withDefaults (chosen : String → Bool) :
    n.Alike { n with props := n.withDefaults chosen } := by
  apply n.alike_withProps
  intro e he
  have standard : n.defaults = e.defaults := by rw [defaults, he, Option.map_some, Option.getD_some]
  rw [withDefaults, standard]
  exact Props.sameReadings_withDefaults ..

end Node

namespace Graph

def mapProps (f : Node → Fields) (g : Graph) : Graph where
  root := { g.root with props := f g.root }
  nodes := g.nodes.mapValues fun n => { n with props := f n }
  root_id := g.root_id
  node_id e he := by
    obtain ⟨e', he', rfl⟩ := List.mem_map.1 he
    exact g.node_id e' he'
  root_apart := by
    rw [Table.keys_mapValues]
    exact g.root_apart

theorem get?_mapProps (f : Node → Fields) (g : Graph) (id : String) :
    (g.mapProps f).get? id = (g.get? id).map fun n => { n with props := f n } := by
  rw [get?, get?]
  split
  · rfl
  · exact g.nodes.get?_mapValues _ id

def withoutNulls (g : Graph) : Graph := g.mapProps Node.withoutNulls

/-- The graph with some defaults written out, chosen by the ids of the nodes and the names of the
properties. -/
def withDefaults (chosen : String → String → Bool) (g : Graph) : Graph :=
  g.mapProps fun n => n.withDefaults (chosen n.id)

theorem walk_mapProps {f : Node → Fields} (h : ∀ n : Node, n.Alike { n with props := f n })
    (g : Graph) (backend : Backend) : walk (g.mapProps f) backend = walk g backend := by
  symm
  apply walk_alike
  intro id
  rw [get?_mapProps]
  cases g.get? id with
  | none => exact .none
  | some n => exact .some (h n)

end Graph

/-- Absent, null and written out as the default are the same thing: to a walk, whichever properties
of whichever nodes it is about, and to every reader of every property over any defaults. -/
theorem defaults_invisible (g : Graph) (backend : Backend) :
    walk g.withoutNulls backend = walk g backend ∧
    (∀ chosen, walk (g.withDefaults chosen) backend = walk g backend) ∧
    ∀ (fs defaults : Fields) (key : String),
      Props.SameReadings ⟨Props.withoutKey key fs, defaults⟩ ⟨putField key .null fs, defaults⟩ ∧
      Props.SameReadings ⟨Props.withoutKey key fs, defaults⟩
        ⟨putField key ((defaults.lookup key).getD .null) fs, defaults⟩ := by
  refine ⟨?_, fun chosen => ?_, fun fs defaults key => ⟨?_, ?_⟩⟩
  · exact Graph.walk_mapProps Node.alike_withoutNulls g backend
  · exact Graph.walk_mapProps (fun n => n.alike_withDefaults (chosen n.id)) g backend
  · exact Props.sameReadings_null ..
  · exact Props.sameReadings_default ..

end MiniApp
