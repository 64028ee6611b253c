/-!
# Queues of incidents

What happens to the calls of one kind is written down in advance: each call takes
the next entry of a queue.  An entry without an incident, like an exhausted
queue, lets the call through.

## Main definitions

* `Queue` — the entries that are left.
* `Queue.due`, `Queue.rest` — what happens to the next call, and what is left then.

## Main results

* `Queue.due_cons`, `Queue.rest_cons`, `Queue.due_nil` — one call, one entry.
-/

namespace ClientTrial

/-- The incidents of the calls to come, in order. -/
abbrev Queue (α : Type) := List (Option α)

namespace Queue

variable {α : Type}

/-- What happens to the next call. -/
def due : Queue α → Option α
  | [] => none
  | entry :: _ => entry

/-- What is left after the next call. -/
def rest : Queue α → Queue α
  | [] => []
  | _ :: entries => entries

@[simp] theorem due_nil : due ([] : Queue α) = none := rfl

@[simp] theorem due_cons (entry : Option α) (entries : Queue α) :
    due (entry :: entries) = entry := rfl

@[simp] theorem rest_nil : rest ([] : Queue α) = [] := rfl

@[simp] theorem rest_cons (entry : Option α) (entries : Queue α) :
    rest (entry :: entries) = entries := rfl

end Queue
end ClientTrial
