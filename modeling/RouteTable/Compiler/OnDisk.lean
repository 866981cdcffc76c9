import RouteTable.Compiler
import RouteTable.Module.Store

/-!
# Compiling with modules from disk

`Setup.onDisk` checks values by schema and looks for modules on a disk.  `Compiler.compileOnDisk` compiles with it and
answers the routes together with the store as it is after all loads.
-/

namespace RouteTable

def Setup.onDisk (engine : SchemaEngine) (d : Disk) (config : Config) (tree : Option HandlerTree)
    (defaultHandler : Option Handler) : Setup :=
  { config, validators := .bySchema engine, probe := d.hasModule, tree, defaultHandler, cwd := d.cwd }

def Compiler.compileOnDisk (engine : SchemaEngine) (d : Disk) (s : ModuleStore) (config : Config)
    (tree : Option HandlerTree) (defaultHandler : Option Handler) (api : Description) :
    Except CompileError (List Route) × ModuleStore :=
  (((Setup.onDisk engine d config tree defaultHandler).compile api).runOn d s).value

end RouteTable
