namespace QueryAgent.Postgres

/-!
# Column types

The types a PostgreSQL column can have, and the catalogue of those that every
server has.
-/

/-- The type of a column. -/
inductive ColumnType where
  /-- A type with a representation of its own. -/
  | plain (name : String) (oid : Nat) (builtIn : Bool)
  /-- A type of labels. -/
  | enumeration (name : String)
  /-- A type over another, with constraints. -/
  | domain (name : String) (base : ColumnType)
  /-- Lists of another type. -/
  | array (name : String) (member : ColumnType)
deriving Repr, DecidableEq, Inhabited

/-- The name of a type. -/
def ColumnType.name : ColumnType → String
  | .plain name _ _ => name
  | .enumeration name => name
  | .domain name _ => name
  | .array name _ => name

/-- The types with a representation of their own that every server has. -/
def plainTypes : List (Nat × String) :=
  [(16, "bool"), (17, "bytea"), (18, "char"), (19, "name"), (20, "int8"), (21, "int2"),
    (23, "int4"), (24, "regproc"), (25, "text"), (26, "oid"), (27, "tid"), (28, "xid"),
    (29, "cid"), (32, "pg_ddl_command"), (114, "json"), (142, "xml"),
    (194, "pg_node_tree"), (269, "table_am_handler"), (325, "index_am_handler"),
    (600, "point"), (601, "lseg"), (602, "path"), (603, "box"), (604, "polygon"),
    (628, "line"), (650, "cidr"), (700, "float4"), (701, "float8"), (705, "unknown"),
    (718, "circle"), (774, "macaddr8"), (790, "money"), (829, "macaddr"), (869, "inet"),
    (1033, "aclitem"), (1042, "bpchar"), (1043, "varchar"), (1082, "date"), (1083, "time"),
    (1114, "timestamp"), (1184, "timestamptz"), (1186, "interval"), (1266, "timetz"),
    (1560, "bit"), (1562, "varbit"), (1700, "numeric"), (1790, "refcursor"),
    (2202, "regprocedure"), (2203, "regoper"), (2204, "regoperator"), (2205, "regclass"),
    (2206, "regtype"), (2249, "record"), (2275, "cstring"), (2276, "any"),
    (2277, "anyarray"), (2278, "void"), (2279, "trigger"), (2280, "language_handler"),
    (2281, "internal"), (2283, "anyelement"), (2776, "anynonarray"), (2950, "uuid"),
    (2970, "txid_snapshot"), (3115, "fdw_handler"), (3220, "pg_lsn"), (3310, "tsm_handler"),
    (3361, "pg_ndistinct"), (3402, "pg_dependencies"), (3500, "anyenum"),
    (3614, "tsvector"), (3615, "tsquery"), (3642, "gtsvector"), (3734, "regconfig"),
    (3769, "regdictionary"), (3802, "jsonb"), (3831, "anyrange"), (3838, "event_trigger"),
    (3904, "int4range"), (3906, "numrange"), (3908, "tsrange"), (3910, "tstzrange"),
    (3912, "daterange"), (3926, "int8range"), (4072, "jsonpath"), (4089, "regnamespace"),
    (4096, "regrole"), (4191, "regcollation"), (4451, "int4multirange"),
    (4532, "nummultirange"), (4533, "tsmultirange"), (4534, "tstzmultirange"),
    (4535, "datemultirange"), (4536, "int8multirange"), (4537, "anymultirange"),
    (4538, "anycompatiblemultirange"), (4600, "pg_brin_bloom_summary"),
    (4601, "pg_brin_minmax_multi_summary"), (5017, "pg_mcv_list"), (5038, "pg_snapshot"),
    (5069, "xid8"), (5077, "anycompatible"), (5078, "anycompatiblearray"),
    (5079, "anycompatiblenonarray"), (5080, "anycompatiblerange")]

/-- The lists that every server has: number, name, number of the member. -/
def arrayTypes : List (Nat × String × Nat) :=
  [(22, "int2vector", 21), (30, "oidvector", 26), (143, "_xml", 142), (199, "_json", 114),
    (210, "_pg_type", 71), (271, "_xid8", 5069), (629, "_line", 628), (651, "_cidr", 650),
    (719, "_circle", 718), (775, "_macaddr8", 774), (791, "_money", 790),
    (1000, "_bool", 16), (1001, "_bytea", 17), (1002, "_char", 18), (1003, "_name", 19),
    (1005, "_int2", 21), (1007, "_int4", 23), (1008, "_regproc", 24), (1009, "_text", 25),
    (1010, "_tid", 27), (1011, "_xid", 28), (1012, "_cid", 29), (1014, "_bpchar", 1042),
    (1015, "_varchar", 1043), (1016, "_int8", 20), (1017, "_point", 600),
    (1018, "_lseg", 601), (1019, "_path", 602), (1020, "_box", 603), (1021, "_float4", 700),
    (1022, "_float8", 701), (1027, "_polygon", 604), (1028, "_oid", 26),
    (1034, "_aclitem", 1033), (1040, "_macaddr", 829), (1041, "_inet", 869),
    (1115, "_timestamp", 1114), (1182, "_date", 1082), (1183, "_time", 1083),
    (1185, "_timestamptz", 1184), (1187, "_interval", 1186), (1231, "_numeric", 1700),
    (1263, "_cstring", 2275), (1270, "_timetz", 1266), (1561, "_bit", 1560),
    (1563, "_varbit", 1562), (2201, "_refcursor", 1790), (2207, "_regprocedure", 2202),
    (2208, "_regoper", 2203), (2209, "_regoperator", 2204), (2210, "_regclass", 2205),
    (2211, "_regtype", 2206), (2287, "_record", 2249), (2949, "_txid_snapshot", 2970),
    (2951, "_uuid", 2950), (3221, "_pg_lsn", 3220), (3643, "_tsvector", 3614),
    (3644, "_gtsvector", 3642), (3645, "_tsquery", 3615), (3735, "_regconfig", 3734),
    (3770, "_regdictionary", 3769), (3807, "_jsonb", 3802), (3905, "_int4range", 3904),
    (3907, "_numrange", 3906), (3909, "_tsrange", 3908), (3911, "_tstzrange", 3910),
    (3913, "_daterange", 3912), (3927, "_int8range", 3926), (4073, "_jsonpath", 4072),
    (4090, "_regnamespace", 4089), (4097, "_regrole", 4096), (4192, "_regcollation", 4191),
    (5039, "_pg_snapshot", 5038), (6150, "_int4multirange", 4451),
    (6151, "_nummultirange", 4532), (6152, "_tsmultirange", 4533),
    (6153, "_tstzmultirange", 4534), (6155, "_datemultirange", 4535),
    (6157, "_int8multirange", 4536)]

/-- The type of a number that is not in the catalogue. -/
def unlistedType
    (oid : Nat) : ColumnType :=
  .plain "custom" oid false

/-- The type of a number among those with a representation of their own. -/
def plainType
    (oid : Nat) : ColumnType :=
  match plainTypes.lookup oid with
  | some name =>
      .plain name oid true
  | none =>
      unlistedType oid

/-- The type of a number; one that is not in the catalogue is a type of its own. -/
def ColumnType.ofOid
    (oid : Nat) : ColumnType :=
  match arrayTypes.lookup oid with
  | some (name, member) =>
      .array name (plainType member)
  | none =>
      match oid with
      | 1006 =>
          .array "_int2vector" (.array "int2vector" (plainType 21))
      | 1013 =>
          .array "_oidvector" (.array "oidvector" (plainType 26))
      | oid =>
          plainType oid

end QueryAgent.Postgres
