import RetainerTable.Proofs.CommandLine.Run

namespace RetainerTable.CommandLine

variable {host : Host} {machine : Machine} {manual : Topic → String} {arguments : List String}
  {inputs : Inputs} {request : Request}

/-- What a request is to print once it has its table. -/
def Request.text (generation : Generation) : Request → String
  | .resolve _ => generation.table.describe
  | .generate _ none => generation.source
  | .generate _ (some _) | .version | .help _ => ""

/-- How a request with these inputs can end, and what it leaves then. -/
inductive Ended (host : Host) (machine : Machine) (inputs : Inputs) :
    Request → Outcome → Machine → Prop
  | withoutTable {request : Request} {message : String} {cause : Option String}
      (hnone : inputs.generation? (host.readText machine) = none) :
      Ended host machine inputs request (.failed message cause) machine
  | printed {request : Request} {generation : Generation}
      (hmade : inputs.generation? (host.readText machine) = some generation)
      (hrequest : ∀ out, request ≠ .generate inputs (some out)) :
      Ended host machine inputs request .done (machine.append (request.text generation).toUTF8)
  | unprinted {request : Request} {generation : Generation} {fault : Fault} {outcome : Outcome}
      {after : Machine} (hmade : inputs.generation? (host.readText machine) = some generation)
      (hrequest : ∀ out, request ≠ .generate inputs (some out)) (hcode : outcome.exitCode ≠ 0)
      (hunprinted : host.Unprinted machine (request.text generation) fault after) :
      Ended host machine inputs request outcome after
  | written {generation : Generation} {out : String} {after : Machine}
      (hmade : inputs.generation? (host.readText machine) = some generation)
      (hprinted : after.printed = machine.printed)
      (hwrote : machine.files.Wrote host.here out generation.source.toUTF8 after.files) :
      Ended host machine inputs (.generate inputs (some out)) .done after
  | unwritten {generation : Generation} {out : String} {outcome : Outcome} {after : Machine}
      (hmade : inputs.generation? (host.readText machine) = some generation)
      (hunwritten : host.Unwritten machine out generation.source outcome after) :
      Ended host machine inputs (.generate inputs (some out)) outcome after

namespace Ended

variable {out : String} {outcome : Outcome} {after : Machine}

theorem cause (hended : Ended host machine inputs request outcome after)
    (hcode : outcome.exitCode ≠ 0) : inputs.generation? (host.readText machine) = none ∨
      ∃ generation, inputs.generation? (host.readText machine) = some generation ∧
        ((∃ fault, host.Unprinted machine (request.text generation) fault after) ∨
          ∃ out, request = .generate inputs (some out) ∧
            host.Unwritten machine out generation.source outcome after) := by
  cases hended with
  | withoutTable hnone => exact .inl hnone
  | printed => exact absurd rfl hcode
  | unprinted hmade _ _ hunprinted => exact .inr ⟨_, hmade, .inl ⟨_, hunprinted⟩⟩
  | written => exact absurd rfl hcode
  | unwritten hmade hunwritten => exact .inr ⟨_, hmade, .inr ⟨_, rfl, hunwritten⟩⟩

end Ended

end RetainerTable.CommandLine
