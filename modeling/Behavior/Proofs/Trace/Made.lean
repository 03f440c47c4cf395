import Behavior.Proofs.Run.Leads
import Behavior.Proofs.Trace.Place

namespace Behavior

variable {A : Agent} {D : Type}

namespace Trace

variable {place : Place} {trace : Trace A}

/-- The calls of a trace without their places. -/
def made (trace : Trace A) : List (Call A) := trace.calls.map Prod.snd

/-- The notices of a trace without their places. -/
def told (trace : Trace A) : List Notice := trace.notices.map Prod.snd

/-- Calls are made in the order of the traces. -/
@[simp] theorem made_append (first second : Trace A) :
    made (first ++ second) = first.made ++ second.made := by
  rw [made, calls_append, List.map_append, made, made]

/-- Notices are told in the order of the traces. -/
@[simp] theorem told_append (first second : Trace A) :
    told (first ++ second) = first.told ++ second.told := by
  rw [told, notices_append, List.map_append, told, told]

/-- What is written calls nobody. -/
theorem made_outputs (outputs : List Output) :
    made (outputs.map fun output => (⟨place, .output output⟩ : Entry A)) = [] := by
  simp [made, calls, List.filterMap_map]

/-- Records are no notices. -/
theorem Written.notices (written : trace.Written place) : trace.notices = [] := by
  apply List.filterMap_eq_nil_iff.2
  intro entry member
  obtain ⟨record, rfl⟩ := written entry member
  rfl

/-- Records are no calls. -/
theorem Written.calls (written : trace.Written place) : trace.calls = [] := by
  apply List.filterMap_eq_nil_iff.2
  intro entry member
  obtain ⟨record, rfl⟩ := written entry member
  rfl

end Trace

namespace Context.Tells

variable {context : Context D} {notice : Notice} {trace : Trace A}

/-- What is told is one notice. -/
theorem notices (tells : context.Tells notice trace) :
    trace.notices = [(context.place, notice)] := by
  obtain ⟨outputs, rfl⟩ := tells
  simp [Trace.notices, List.filterMap_map]

/-- Telling calls nobody. -/
theorem calls (tells : context.Tells notice trace) : trace.calls = [] := by
  obtain ⟨outputs, rfl⟩ := tells
  simp [Trace.calls, List.filterMap_map]

/-- A notice makes no call. -/
theorem made (tells : context.Tells notice trace) : trace.made = [] :=
  congrArg (List.map Prod.snd) tells.calls

/-- A notice is told once. -/
theorem told (tells : context.Tells notice trace) : trace.told = [notice] :=
  congrArg (List.map Prod.snd) tells.notices

end Context.Tells

namespace Run.Leads

variable {Value : Type} {place : Place} {reply : A.State → Reply A.State Value}
  {describe : Value → Call A} {before after : Stage A D} {trace : Trace A} {value : Value}

/-- A call makes itself, whatever the agent writes on it. -/
theorem calls (called : (Run.call place reply describe).Leads before trace value after) :
    trace.calls = [(place, describe value)] := by
  obtain ⟨lines, rfl⟩ := called.trace_of_call
  simp [Trace.calls, List.filterMap_map]

/-- A call tells nothing. -/
theorem notices (called : (Run.call place reply describe).Leads before trace value after) :
    trace.notices = [] := by
  obtain ⟨lines, rfl⟩ := called.trace_of_call
  simp [Trace.notices, List.filterMap_map]

/-- A call is made once. -/
theorem made (called : (Run.call place reply describe).Leads before trace value after) :
    trace.made = [describe value] :=
  congrArg (List.map Prod.snd) called.calls

/-- A call tells nothing. -/
theorem told (called : (Run.call place reply describe).Leads before trace value after) :
    trace.told = [] :=
  congrArg (List.map Prod.snd) called.notices

end Run.Leads

end Behavior
