import SqlMapper.Member.Accessor

/-!
# Parameters of the sample mappers

The parameter objects that the statements of the sample mappers are written for.
-/

namespace SqlMapper.Sample

/-- An absent value is null. -/
def optional {α : Type} (toValue : α → Value) (content : Option α) : Value :=
  (content.map toValue).getD .null

def number (n : Int32) : Value :=
  .int n.toInt64

structure UserSearch where
  name : Option String := none
  active : Option Bool := none
  minAge : Option Int32 := none
  ids : Option (List Int64) := none
  order : Option String := none

def UserSearch.accessor (search : UserSearch) : Accessor :=
  .ofRecord {
    shape := some "quarry_tests::UserSearch"
    fields := [
      ("name", optional .string search.name),
      ("active", optional .bool search.active),
      ("min_age", optional number search.minAge),
      ("ids", optional (fun ids => .list (ids.map .int)) search.ids),
      ("order", optional .string search.order) ] }

structure UserUpdate where
  id : Int64 := 0
  name : Option String := none
  age : Option Int32 := none

def UserUpdate.accessor (change : UserUpdate) : Accessor :=
  .ofRecord {
    shape := some "quarry_tests::UserUpdate"
    fields := [
      ("id", .int change.id),
      ("name", optional .string change.name),
      ("age", optional number change.age) ] }

structure NewUser where
  name : String
  age : Int32

/-- The members of a user to be added. -/
def NewUser.accessor (user : NewUser) : Accessor :=
  .ofRecord {
    shape := some "quarry_tests::NewUser"
    fields := [("name", .string user.name), ("age", number user.age)] }

structure NewUsers where
  users : List NewUser := []

/-- The members of users to be added: a list of copies. -/
def NewUsers.accessor (added : NewUsers) : Accessor :=
  .ofRecord {
    shape := some "quarry_tests::NewUsers"
    fields := [("users", .list (added.users.map fun user => user.accessor.snapshot))] }

end SqlMapper.Sample
