import ArqBenchmark.Traces

namespace ArqBenchmark.FifoChannel

inductive Event (μ : Type)
  | put (message : μ)
  | got (message : Option μ)
deriving DecidableEq, Repr

variable {μ : Type} {queue : List μ} {trace : List (Event μ)}

/-- Messages come out in the order in which they were put in; one that is in the channel may take any time. -/
inductive Step : List μ → Event μ → List μ → Prop
  | put {queue : List μ} {message : μ} : Step queue (.put message) (queue ++ [message])
  | got {queue : List μ} {message : μ} : Step (message :: queue) (.got (some message)) queue
  | waited {queue : List μ} : Step queue (.got none) queue

abbrev Shows (trace : List (Event μ)) (queue : List μ) : Prop := Runs.Shows Step some [] trace queue

def puts (trace : List (Event μ)) : List μ :=
  trace.filterMap fun
    | .put message => some message
    | .got _ => none

def gots (trace : List (Event μ)) : List μ :=
  trace.filterMap fun
    | .put _ => none
    | .got message => message

@[simp] theorem puts_concat_put (trace : List (Event μ)) (message : μ) :
    puts (trace ++ [.put message]) = puts trace ++ [message] := by
  simp [puts]

@[simp] theorem puts_concat_got (trace : List (Event μ)) (message : Option μ) :
    puts (trace ++ [.got message]) = puts trace := by
  simp [puts]

@[simp] theorem gots_concat_put (trace : List (Event μ)) (message : μ) :
    gots (trace ++ [.put message]) = gots trace := by
  simp [gots]

@[simp] theorem gots_concat_got (trace : List (Event μ)) (message : Option μ) :
    gots (trace ++ [.got message]) = gots trace ++ message.toList := by
  cases message <;> simp [gots]

theorem Shows.conserves (h : Shows trace queue) : puts trace = gots trace ++ queue := by
  induction h with
  | refl => rfl
  | tail _ hs ih =>
    rw [Option.toList_some]
    cases hs with
    | put => rw [puts_concat_put, gots_concat_put, ih, List.append_assoc]
    | got => rw [puts_concat_got, gots_concat_got, ih, Option.toList_some, List.append_assoc, List.singleton_append]
    | waited => rw [puts_concat_got, gots_concat_got, ih, Option.toList_none, List.append_nil]

end ArqBenchmark.FifoChannel
