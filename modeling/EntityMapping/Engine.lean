/-
Module: EntityMapping.Engine
Purpose: What the engine behind the schemas is called, and the settings it has when none are given.
Main exports: Engine.name, Engine.endpoint, Engine.schema, Engine.user
-/

namespace EntityMapping.Engine

/-- The name of the engine. -/
def name : String := "Prisma"

/-- The number of the server's endpoint. There is no server, so it is zero. -/
def endpoint : Nat := 0

/-- The schema identifier of an entity when none is given. -/
def schema : String := "prisma"

/-- There is no server, so there is no user. -/
def user : String := ""

end EntityMapping.Engine
