import RecordStore.Aggregate.Groups

/-!
# Operations

An `Operation` is the name of what a request wants, with arguments of the shape of that operation.
`Operation.check` holds the arguments against an entity and gives a `Command`, which nothing but a
store can still refuse.
-/

namespace RecordStore

/-- What a request can ask for. -/
inductive OperationKind where
  | findUnique
  | findUniqueOrThrow
  | findFirst
  | findMany
  | count
  | create
  | createMany
  | update
  | updateMany
  | upsert
  | delete
  | deleteMany
  | aggregate
  | groupBy
deriving DecidableEq

namespace OperationKind

/-- The operation of a name; some operations have a second name. -/
def ofName? : String → Option OperationKind
  | "findUnique" => some .findUnique
  | "findOne" => some .findUnique
  | "findUniqueOrThrow" => some .findUniqueOrThrow
  | "findFirst" => some .findFirst
  | "findMany" => some .findMany
  | "findAll" => some .findMany
  | "count" => some .count
  | "create" => some .create
  | "createMany" => some .createMany
  | "update" => some .update
  | "updateMany" => some .updateMany
  | "upsert" => some .upsert
  | "delete" => some .delete
  | "remove" => some .delete
  | "deleteMany" => some .deleteMany
  | "aggregate" => some .aggregate
  | "groupBy" => some .groupBy
  | _ => none

/-- The first name of an operation. -/
def name : OperationKind → String
  | .findUnique => "findUnique"
  | .findUniqueOrThrow => "findUniqueOrThrow"
  | .findFirst => "findFirst"
  | .findMany => "findMany"
  | .count => "count"
  | .create => "create"
  | .createMany => "createMany"
  | .update => "update"
  | .updateMany => "updateMany"
  | .upsert => "upsert"
  | .delete => "delete"
  | .deleteMany => "deleteMany"
  | .aggregate => "aggregate"
  | .groupBy => "groupBy"

def isReadOnly : OperationKind → Bool
  | .findUnique => true
  | .findUniqueOrThrow => true
  | .findFirst => true
  | .findMany => true
  | .count => true
  | .aggregate => true
  | .groupBy => true
  | _ => false

/-! ## Shapes of arguments -/

private def selectorFields : List (String × FieldShape) :=
  Selector.all.map fun selector => (selector.key, .optional)

private def findShape : ArgumentShape :=
  ⟨"FindManyArgs",
    [("where", .optional), ("orderBy", .optional), ("cursor", .optional),
     ("take", .optionalInteger), ("skip", .optionalInteger), ("distinct", .optionalStrings)], true⟩

private def addressShape : ArgumentShape := ⟨"WhereUniqueArgs", [("where", .required)], true⟩

/-- The shape of an operation's arguments. -/
def shape : OperationKind → ArgumentShape
  | .findUnique => addressShape
  | .findUniqueOrThrow => addressShape
  | .findFirst => findShape
  | .findMany => findShape
  | .count => findShape
  | .create => ⟨"CreateArgs", [("data", .required)], true⟩
  | .createMany => ⟨"CreateManyArgs", [("data", .list), ("skipDuplicates", .flag)], true⟩
  | .update => ⟨"UpdateArgs", [("where", .required), ("data", .required)], true⟩
  | .updateMany => ⟨"UpdateManyArgs", [("where", .optional), ("data", .required)], true⟩
  | .upsert =>
    ⟨"UpsertArgs", [("where", .required), ("create", .required), ("update", .required)], true⟩
  | .delete => addressShape
  | .deleteMany => ⟨"DeleteManyArgs", [("where", .optional)], true⟩
  | .aggregate =>
    ⟨"AggregateArgs",
      [("where", .optional), ("orderBy", .optional), ("cursor", .optional),
       ("take", .optionalInteger), ("skip", .optionalInteger)] ++ selectorFields, true⟩
  | .groupBy =>
    ⟨"GroupByArgs",
      [("by", .strings), ("where", .optional), ("having", .optional), ("orderBy", .optional),
       ("take", .optionalInteger), ("skip", .optionalInteger)] ++ selectorFields, true⟩

end OperationKind

/-- An operation with arguments of its shape. -/
structure Operation where
  kind : OperationKind
  arguments : Arguments

/-- Reads an operation by one of its names. -/
def Operation.read (name : String) (arguments : Json) : Except ValidationError Operation :=
  match OperationKind.ofName? name with
  | none => .error (.invalidArguments (.unknownOperation name))
  | some kind =>
    -- Arguments that are null are those of an empty object.
    match kind.shape.read (if arguments.isNull then .obj [] else arguments) with
    | .error fault => .error (.invalidArguments (.misshapen name fault))
    | .ok arguments => .ok ⟨kind, arguments⟩

/-! ## Commands -/

/-- An operation that has passed every check and is one call of a store away from its outcome. -/
inductive Command where
  | findUnique (address : Address) (orThrow : Bool)
  | find (plan : Plan) (first : Bool)
  | count (plan : Plan)
  | create (insertion : Insertion)
  | createMany (insertions : List Insertion) (skipDuplicates : Bool)
  | update (address : Address) (changes : Changes)
  | updateMany (filter : Filter) (changes : Changes)
  | upsert (address : Address) (insertion : Insertion) (changes : Changes)
  | delete (address : Address)
  | deleteMany (filter : Filter)
  | aggregate (query : AggregateQuery)
  | groupBy (query : GroupQuery)

namespace Operation

/-- The value of an argument, null if it is not given. -/
def argument (operation : Operation) (name : String) : Json :=
  (operation.arguments.get? name).getD .null

def check (operation : Operation) (entity : Entity) (limits : Limits) :
    Except ValidationError Command := do
  -- Neither of the two counts as a fault before an operation asks for it.
  let address := Address.read entity (operation.argument "where")
  let filter := Filter.read entity limits.maxFilterDepth (operation.argument "where")
  match operation.kind with
  | .findUnique => return .findUnique (← address) false
  | .findUniqueOrThrow => return .findUnique (← address) true
  | .findFirst =>
    let query ← Query.read entity limits operation.arguments
    -- One row is enough, but a size that was asked for decides the direction.
    let query := { query with take? := some (query.take?.getD 1) }
    return .find (← query.planPage entity limits) true
  | .findMany =>
    let query ← Query.read entity limits operation.arguments
    return .find (← query.planPage entity limits) false
  | .count =>
    let query ← Query.read entity limits operation.arguments
    return .count (← query.planWindow entity limits)
  | .create => return .create (← Insertion.read entity (operation.argument "data"))
  | .createMany =>
    let items := ((operation.argument "data").items?).getD []
    let insertions ← items.mapM (Insertion.read entity)
    let skipDuplicates :=
      match operation.argument "skipDuplicates" with
      | .bool b => b
      | _ => false
    return .createMany insertions skipDuplicates
  | .update => return .update (← address) (← Changes.read entity (operation.argument "data"))
  | .updateMany => return .updateMany (← filter) (← Changes.read entity (operation.argument "data"))
  | .upsert =>
    let address ← address
    let insertion ← Insertion.read entity (operation.argument "create")
    let changes ← Changes.readAny entity (operation.argument "update")
    return .upsert address insertion changes
  | .delete => return .delete (← address)
  | .deleteMany => return .deleteMany (← filter)
  | .aggregate => return .aggregate (← AggregateQuery.read entity limits operation.arguments)
  | .groupBy => return .groupBy (← GroupQuery.read entity limits operation.arguments)

end Operation

end RecordStore
