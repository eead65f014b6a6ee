namespace Depot.Log.Channel

/-- What stands before the dots of a name, the longest first. Both are spelled backwards. -/
def heads : List Char → List (List Char)
  | '.' :: c :: rest => (c :: rest) :: heads rest
  | _ :: rest => heads rest
  | [] => []

theorem length_of_mem_heads {name head : List Char} (member : head ∈ heads name) :
    head.length < name.length := by
  fun_induction heads name with
  | case1 c rest ih =>
    rcases List.mem_cons.mp member with equal | later
    · simp [equal]
    · have := ih later
      simp only [List.length_cons]
      omega
  | case2 c rest _ ih =>
    have := ih member
    simp only [List.length_cons]
    omega
  | case3 => simp at member

/-- The channels in use above a name, the nearest first, all spelled backwards. -/
def climb (isUsed : List Char → Bool) (name : List Char) : List (List Char) :=
  match _found : (heads name).find? isUsed with
  | none => []
  | some up => up :: climb isUsed up
termination_by name.length
decreasing_by exact length_of_mem_heads (List.mem_of_find?_eq_some _found)

/-- The channels in use above a channel, the nearest first. -/
def above (used : List String) (channel : String) : List String :=
  (climb (fun name => used.contains (String.ofList name.reverse)) channel.toList.reverse).map fun name =>
    String.ofList name.reverse

/-- Whether a channel is one of the given ones or stands under one. -/
def isUnder (used tops : List String) (channel : String) : Bool :=
  (channel :: above used channel).any tops.contains

end Depot.Log.Channel
