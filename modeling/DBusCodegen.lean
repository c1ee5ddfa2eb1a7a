import DBusCodegen.Basic
import DBusCodegen.TypeTable
import DBusCodegen.Annot
import DBusCodegen.Arg
import DBusCodegen.Member
import DBusCodegen.Property
import DBusCodegen.Interface
import DBusCodegen.ArgNames
import DBusCodegen.Inherit
import DBusCodegen.Identifiers
import DBusCodegen.Runs
