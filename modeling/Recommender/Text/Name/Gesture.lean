import Recommender.Text.Name.Run

/-!
Names of sign writing and of scripts of small communities.
-/
namespace Recommender.NameRun

/-- Names of sign writing and of scripts of small communities. -/
def gestures : List NameRun :=
  [⟨0x1D800, "SIGNWRITING HAND-",
      ["FIST INDEX,CIRCLE INDEX,CUP INDEX,OVAL INDEX,HINGE INDEX,ANGLE INDEX,FIST INDEX BENT",
        "CIRCLE INDEX BENT,FIST THUMB UNDER INDEX BENT,FIST INDEX RAISED KNUCKLE",
        "FIST INDEX CUPPED,FIST INDEX HINGED,FIST INDEX HINGED LOW,CIRCLE INDEX HINGE",
        "FIST INDEX MIDDLE,CIRCLE INDEX MIDDLE"]⟩,
    ⟨0x1D810, "SIGNWRITING HAND-FIST INDEX ",
      ["MIDDLE BENT,MIDDLE RAISED KNUCKLES,MIDDLE HINGED,UP MIDDLE HINGED,HINGED MIDDLE UP",
        "MIDDLE CONJOINED,MIDDLE CONJOINED INDEX BENT,MIDDLE CONJOINED MIDDLE BENT",
        "MIDDLE CONJOINED CUPPED,MIDDLE CONJOINED HINGED,MIDDLE CROSSED"]⟩,
    ⟨0x1D81B, "SIGNWRITING HAND-",
      ["CIRCLE INDEX MIDDLE CROSSED,FIST MIDDLE BENT OVER INDEX,FIST INDEX BENT OVER MIDDLE",
        "FIST INDEX MIDDLE THUMB,CIRCLE INDEX MIDDLE THUMB"]⟩,
    ⟨0x1D820, "SIGNWRITING HAND-FIST INDEX ",
      ["MIDDLE STRAIGHT THUMB BENT,MIDDLE BENT THUMB STRAIGHT,MIDDLE THUMB BENT",
        "MIDDLE HINGED SPREAD THUMB SIDE,UP MIDDLE HINGED THUMB SIDE",
        "UP MIDDLE HINGED THUMB CONJOINED,HINGED MIDDLE UP THUMB SIDE",
        "MIDDLE UP SPREAD THUMB FORWARD,MIDDLE THUMB CUPPED,MIDDLE THUMB CIRCLED",
        "MIDDLE THUMB HOOKED,MIDDLE THUMB HINGED"]⟩,
    ⟨0x1D82C, "SIGNWRITING HAND-FIST ",
      ["THUMB BETWEEN INDEX MIDDLE STRAIGHT,INDEX MIDDLE CONJOINED THUMB SIDE",
        "INDEX MIDDLE CONJOINED THUMB SIDE CONJOINED,INDEX MIDDLE CONJOINED THUMB SIDE BENT",
        "MIDDLE THUMB HOOKED INDEX UP,INDEX THUMB HOOKED MIDDLE UP",
        "INDEX MIDDLE CONJOINED HINGED THUMB SIDE,INDEX MIDDLE CROSSED THUMB SIDE",
        "INDEX MIDDLE CONJOINED THUMB FORWARD,INDEX MIDDLE CONJOINED CUPPED THUMB FORWARD",
        "MIDDLE THUMB CUPPED INDEX UP,INDEX THUMB CUPPED MIDDLE UP",
        "MIDDLE THUMB CIRCLED INDEX UP,MIDDLE THUMB CIRCLED INDEX HINGED",
        "INDEX THUMB ANGLED OUT MIDDLE UP,INDEX THUMB ANGLED IN MIDDLE UP",
        "INDEX THUMB CIRCLED MIDDLE UP,INDEX MIDDLE THUMB CONJOINED HINGED",
        "INDEX MIDDLE THUMB ANGLED OUT,INDEX MIDDLE THUMB ANGLED",
        "MIDDLE THUMB ANGLED OUT INDEX UP,MIDDLE THUMB ANGLED OUT INDEX CROSSED",
        "MIDDLE THUMB ANGLED INDEX UP,INDEX THUMB HOOKED MIDDLE HINGED"]⟩,
    ⟨0x1D844, "SIGNWRITING HAND-FLAT FOUR ",
      ["FINGERS,FINGERS BENT,FINGERS HINGED,FINGERS CONJOINED,FINGERS CONJOINED SPLIT"]⟩,
    ⟨0x1D849, "SIGNWRITING HAND-",
      ["CLAW FOUR FINGERS CONJOINED,FIST FOUR FINGERS CONJOINED BENT",
        "HINGE FOUR FINGERS CONJOINED,FLAT FIVE FINGERS SPREAD,FLAT HEEL FIVE FINGERS SPREAD",
        "FLAT FIVE FINGERS SPREAD FOUR BENT,FLAT HEEL FIVE FINGERS SPREAD FOUR BENT",
        "FLAT FIVE FINGERS SPREAD BENT,FLAT HEEL FIVE FINGERS SPREAD BENT",
        "FLAT FIVE FINGERS SPREAD THUMB FORWARD,CUP FIVE FINGERS SPREAD",
        "CUP FIVE FINGERS SPREAD OPEN,HINGE FIVE FINGERS SPREAD OPEN,OVAL FIVE FINGERS SPREAD",
        "FLAT FIVE FINGERS SPREAD HINGED,FLAT FIVE FINGERS SPREAD HINGED THUMB SIDE",
        "FLAT FIVE FINGERS SPREAD HINGED NO THUMB,FLAT,FLAT BETWEEN PALM FACINGS,FLAT HEEL",
        "FLAT THUMB SIDE,FLAT HEEL THUMB SIDE,FLAT THUMB BENT,FLAT THUMB FORWARD",
        "FLAT SPLIT INDEX THUMB SIDE,FLAT SPLIT CENTRE,FLAT SPLIT CENTRE THUMB SIDE",
        "FLAT SPLIT CENTRE THUMB SIDE BENT,FLAT SPLIT LITTLE,CLAW,CLAW THUMB SIDE,CLAW NO THUMB",
        "CLAW THUMB FORWARD,HOOK CURLICUE,HOOK,CUP OPEN,CUP,CUP OPEN THUMB SIDE,CUP THUMB SIDE",
        "CUP OPEN NO THUMB,CUP NO THUMB,CUP OPEN THUMB FORWARD,CUP THUMB FORWARD,CURLICUE OPEN",
        "CURLICUE,CIRCLE,OVAL,OVAL THUMB SIDE,OVAL NO THUMB,OVAL THUMB FORWARD,HINGE OPEN",
        "HINGE OPEN THUMB FORWARD,HINGE,HINGE SMALL,HINGE OPEN THUMB SIDE,HINGE THUMB SIDE",
        "HINGE OPEN NO THUMB,HINGE NO THUMB,HINGE THUMB SIDE TOUCHING INDEX",
        "HINGE THUMB BETWEEN MIDDLE RING,ANGLE,FIST INDEX MIDDLE RING,CIRCLE INDEX MIDDLE RING",
        "HINGE INDEX MIDDLE RING,ANGLE INDEX MIDDLE RING,HINGE LITTLE",
        "FIST INDEX MIDDLE RING BENT,FIST INDEX MIDDLE RING CONJOINED",
        "HINGE INDEX MIDDLE RING CONJOINED,FIST LITTLE DOWN,FIST LITTLE DOWN RIPPLE STRAIGHT",
        "FIST LITTLE DOWN RIPPLE CURVED,FIST LITTLE DOWN OTHERS CIRCLED,FIST LITTLE UP",
        "FIST THUMB UNDER LITTLE UP,CIRCLE LITTLE UP,OVAL LITTLE UP,ANGLE LITTLE UP",
        "FIST LITTLE RAISED KNUCKLE,FIST LITTLE BENT,FIST LITTLE TOUCHES THUMB",
        "FIST LITTLE THUMB,HINGE LITTLE THUMB,FIST LITTLE INDEX THUMB,HINGE LITTLE INDEX THUMB",
        "ANGLE LITTLE INDEX THUMB INDEX THUMB OUT,ANGLE LITTLE INDEX THUMB INDEX THUMB",
        "FIST LITTLE INDEX,CIRCLE LITTLE INDEX,HINGE LITTLE INDEX,ANGLE LITTLE INDEX",
        "FIST INDEX MIDDLE LITTLE,CIRCLE INDEX MIDDLE LITTLE,HINGE INDEX MIDDLE LITTLE",
        "HINGE RING,ANGLE INDEX MIDDLE LITTLE,FIST INDEX MIDDLE CROSS LITTLE",
        "CIRCLE INDEX MIDDLE CROSS LITTLE,FIST RING DOWN",
        "HINGE RING DOWN INDEX THUMB HOOK MIDDLE,ANGLE RING DOWN MIDDLE THUMB INDEX CROSS",
        "FIST RING UP,FIST RING RAISED KNUCKLE,FIST RING LITTLE,CIRCLE RING LITTLE",
        "OVAL RING LITTLE,ANGLE RING LITTLE,FIST RING MIDDLE,FIST RING MIDDLE CONJOINED",
        "FIST RING MIDDLE RAISED KNUCKLES,FIST RING INDEX,FIST RING THUMB,HOOK RING THUMB",
        "FIST INDEX RING LITTLE,CIRCLE INDEX RING LITTLE,CURLICUE INDEX RING LITTLE ON",
        "HOOK INDEX RING LITTLE OUT,HOOK INDEX RING LITTLE IN,HOOK INDEX RING LITTLE UNDER",
        "CUP INDEX RING LITTLE,HINGE INDEX RING LITTLE,ANGLE INDEX RING LITTLE OUT",
        "ANGLE INDEX RING LITTLE,FIST MIDDLE DOWN,HINGE MIDDLE,FIST MIDDLE UP,CIRCLE MIDDLE UP",
        "FIST MIDDLE RAISED KNUCKLE,FIST MIDDLE UP THUMB SIDE,HOOK MIDDLE THUMB",
        "FIST MIDDLE THUMB LITTLE,FIST MIDDLE LITTLE,FIST MIDDLE RING LITTLE",
        "CIRCLE MIDDLE RING LITTLE,CURLICUE MIDDLE RING LITTLE ON,CUP MIDDLE RING LITTLE",
        "HINGE MIDDLE RING LITTLE,ANGLE MIDDLE RING LITTLE OUT,ANGLE MIDDLE RING LITTLE IN",
        "ANGLE MIDDLE RING LITTLE,CIRCLE MIDDLE RING LITTLE BENT",
        "CLAW MIDDLE RING LITTLE CONJOINED,CLAW MIDDLE RING LITTLE CONJOINED SIDE",
        "HOOK MIDDLE RING LITTLE CONJOINED OUT,HOOK MIDDLE RING LITTLE CONJOINED IN",
        "HOOK MIDDLE RING LITTLE CONJOINED,HINGE INDEX HINGED,FIST INDEX THUMB SIDE",
        "HINGE INDEX THUMB SIDE"]⟩,
    ⟨0x1D8DE, "SIGNWRITING HAND-FIST INDEX THUMB ",
      ["SIDE THUMB DIAGONAL,SIDE THUMB CONJOINED,SIDE THUMB BENT,SIDE INDEX BENT",
        "SIDE BOTH BENT,SIDE INDEX HINGE,FORWARD INDEX STRAIGHT,FORWARD INDEX BENT,HOOK",
        "CURLICUE,CURVE THUMB INSIDE"]⟩,
    ⟨0x1D8E9, "SIGNWRITING HAND-",
      ["CLAW INDEX THUMB CURVE THUMB INSIDE,FIST INDEX THUMB CURVE THUMB UNDER",
        "FIST INDEX THUMB CIRCLE,CUP INDEX THUMB,CUP INDEX THUMB OPEN,HINGE INDEX THUMB OPEN",
        "HINGE INDEX THUMB LARGE,HINGE INDEX THUMB,HINGE INDEX THUMB SMALL",
        "ANGLE INDEX THUMB OUT,ANGLE INDEX THUMB IN,ANGLE INDEX THUMB,FIST THUMB"]⟩,
    ⟨0x1D8F6, "SIGNWRITING HAND-FIST THUMB ",
      ["HEEL,SIDE DIAGONAL,SIDE CONJOINED,SIDE BENT,FORWARD,BETWEEN INDEX MIDDLE",
        "BETWEEN MIDDLE RING,BETWEEN RING LITTLE,UNDER TWO FINGERS,OVER TWO FINGERS",
        "UNDER THREE FINGERS,UNDER FOUR FINGERS,OVER FOUR RAISED KNUCKLES"]⟩,
    ⟨0x1D903, "SIGNWRITING ",
      ["HAND-FIST,HAND-FIST HEEL,TOUCH SINGLE,TOUCH MULTIPLE,TOUCH BETWEEN,GRASP SINGLE",
        "GRASP MULTIPLE,GRASP BETWEEN,STRIKE SINGLE,STRIKE MULTIPLE,STRIKE BETWEEN,BRUSH SINGLE",
        "BRUSH MULTIPLE,BRUSH BETWEEN,RUB SINGLE,RUB MULTIPLE,RUB BETWEEN,SURFACE SYMBOLS",
        "SURFACE BETWEEN,SQUEEZE LARGE SINGLE,SQUEEZE SMALL SINGLE,SQUEEZE LARGE MULTIPLE",
        "SQUEEZE SMALL MULTIPLE,SQUEEZE SEQUENTIAL,FLICK LARGE SINGLE,FLICK SMALL SINGLE",
        "FLICK LARGE MULTIPLE,FLICK SMALL MULTIPLE,FLICK SEQUENTIAL,SQUEEZE FLICK ALTERNATING"]⟩,
    ⟨0x1D921, "SIGNWRITING MOVEMENT-",
      ["HINGE UP DOWN LARGE,HINGE UP DOWN SMALL,HINGE UP SEQUENTIAL,HINGE DOWN SEQUENTIAL",
        "HINGE UP DOWN ALTERNATING LARGE,HINGE UP DOWN ALTERNATING SMALL",
        "HINGE SIDE TO SIDE SCISSORS,WALLPLANE FINGER CONTACT,FLOORPLANE FINGER CONTACT"]⟩,
    ⟨0x1D92A, "SIGNWRITING MOVEMENT-WALLPLANE SINGLE STRAIGHT ", ["SMALL,MEDIUM,LARGE,LARGEST"]⟩,
    ⟨0x1D92E, "SIGNWRITING MOVEMENT-WALLPLANE ",
      ["SINGLE WRIST FLEX,DOUBLE STRAIGHT,DOUBLE WRIST FLEX,DOUBLE ALTERNATING",
        "DOUBLE ALTERNATING WRIST FLEX,CROSS,TRIPLE STRAIGHT MOVEMENT,TRIPLE WRIST FLEX",
        "TRIPLE ALTERNATING,TRIPLE ALTERNATING WRIST FLEX,BEND SMALL,BEND MEDIUM,BEND LARGE",
        "CORNER SMALL,CORNER MEDIUM,CORNER LARGE,CORNER ROTATION,CHECK SMALL,CHECK MEDIUM",
        "CHECK LARGE,BOX SMALL,BOX MEDIUM,BOX LARGE,ZIGZAG SMALL,ZIGZAG MEDIUM,ZIGZAG LARGE",
        "PEAKS SMALL,PEAKS MEDIUM,PEAKS LARGE"]⟩,
    ⟨0x1D94B, "SIGNWRITING TRAVEL-WALLPLANE ROTATION-",
      ["WALLPLANE SINGLE,WALLPLANE DOUBLE,WALLPLANE ALTERNATING,FLOORPLANE SINGLE",
        "FLOORPLANE DOUBLE,FLOORPLANE ALTERNATING"]⟩,
    ⟨0x1D951, "SIGNWRITING TRAVEL-WALLPLANE ",
      ["SHAKING,ARM SPIRAL SINGLE,ARM SPIRAL DOUBLE,ARM SPIRAL TRIPLE"]⟩,
    ⟨0x1D955, "SIGNWRITING MOVEMENT-DIAGONAL ",
      ["AWAY SMALL,AWAY MEDIUM,AWAY LARGE,AWAY LARGEST,TOWARDS SMALL,TOWARDS MEDIUM",
        "TOWARDS LARGE,TOWARDS LARGEST"]⟩,
    ⟨0x1D95D, "SIGNWRITING MOVEMENT-DIAGONAL BETWEEN ",
      ["AWAY SMALL,AWAY MEDIUM,AWAY LARGE,AWAY LARGEST,TOWARDS SMALL,TOWARDS MEDIUM",
        "TOWARDS LARGE,TOWARDS LARGEST"]⟩,
    ⟨0x1D965, "SIGNWRITING MOVEMENT-FLOORPLANE SINGLE STRAIGHT ", ["SMALL,MEDIUM,LARGE,LARGEST"]⟩,
    ⟨0x1D969, "SIGNWRITING MOVEMENT-FLOORPLANE ",
      ["SINGLE WRIST FLEX,DOUBLE STRAIGHT,DOUBLE WRIST FLEX,DOUBLE ALTERNATING",
        "DOUBLE ALTERNATING WRIST FLEX,CROSS,TRIPLE STRAIGHT MOVEMENT,TRIPLE WRIST FLEX",
        "TRIPLE ALTERNATING MOVEMENT,TRIPLE ALTERNATING WRIST FLEX,BEND,CORNER SMALL",
        "CORNER MEDIUM,CORNER LARGE,CHECK,BOX SMALL,BOX MEDIUM,BOX LARGE,ZIGZAG SMALL",
        "ZIGZAG MEDIUM,ZIGZAG LARGE,PEAKS SMALL,PEAKS MEDIUM,PEAKS LARGE"]⟩,
    ⟨0x1D981, "SIGNWRITING TRAVEL-FLOORPLANE ",
      ["ROTATION-FLOORPLANE SINGLE,ROTATION-FLOORPLANE DOUBLE,ROTATION-FLOORPLANE ALTERNATING",
        "ROTATION-WALLPLANE SINGLE,ROTATION-WALLPLANE DOUBLE,ROTATION-WALLPLANE ALTERNATING",
        "SHAKING"]⟩,
    ⟨0x1D988, "SIGNWRITING MOVEMENT-WALLPLANE CURVE ",
      ["QUARTER SMALL,QUARTER MEDIUM,QUARTER LARGE,QUARTER LARGEST,HALF-CIRCLE SMALL",
        "HALF-CIRCLE MEDIUM,HALF-CIRCLE LARGE,HALF-CIRCLE LARGEST,THREE-QUARTER CIRCLE SMALL",
        "THREE-QUARTER CIRCLE MEDIUM"]⟩,
    ⟨0x1D992, "SIGNWRITING MOVEMENT-WALLPLANE ",
      ["HUMP SMALL,HUMP MEDIUM,HUMP LARGE,LOOP SMALL,LOOP MEDIUM,LOOP LARGE,LOOP SMALL DOUBLE",
        "WAVE CURVE DOUBLE SMALL,WAVE CURVE DOUBLE MEDIUM,WAVE CURVE DOUBLE LARGE",
        "WAVE CURVE TRIPLE SMALL,WAVE CURVE TRIPLE MEDIUM,WAVE CURVE TRIPLE LARGE",
        "CURVE THEN STRAIGHT,CURVED CROSS SMALL,CURVED CROSS MEDIUM"]⟩,
    ⟨0x1D9A2, "SIGNWRITING ROTATION-WALLPLANE ", ["SINGLE,DOUBLE,ALTERNATE"]⟩,
    ⟨0x1D9A5, "SIGNWRITING MOVEMENT-WALLPLANE ",
      ["SHAKING,CURVE HITTING FRONT WALL,HUMP HITTING FRONT WALL,LOOP HITTING FRONT WALL",
        "WAVE HITTING FRONT WALL"]⟩,
    ⟨0x1D9AA, "SIGNWRITING ROTATION-WALLPLANE ",
      ["SINGLE HITTING FRONT WALL,DOUBLE HITTING FRONT WALL,ALTERNATING HITTING FRONT WALL"]⟩,
    ⟨0x1D9AD, "SIGNWRITING MOVEMENT-WALLPLANE ",
      ["CURVE HITTING CHEST,HUMP HITTING CHEST,LOOP HITTING CHEST,WAVE HITTING CHEST"]⟩,
    ⟨0x1D9B1, "SIGNWRITING ROTATION-WALLPLANE ",
      ["SINGLE HITTING CHEST,DOUBLE HITTING CHEST,ALTERNATING HITTING CHEST"]⟩,
    ⟨0x1D9B4, "SIGNWRITING MOVEMENT-WALLPLANE WAVE DIAGONAL PATH ", ["SMALL,MEDIUM,LARGE"]⟩,
    ⟨0x1D9B7, "SIGNWRITING MOVEMENT-FLOORPLANE CURVE HITTING CEILING ", ["SMALL,LARGE"]⟩,
    ⟨0x1D9B9, "SIGNWRITING MOVEMENT-FLOORPLANE HUMP HITTING CEILING ",
      ["SMALL DOUBLE,LARGE DOUBLE,SMALL TRIPLE,LARGE TRIPLE"]⟩,
    ⟨0x1D9BD, "SIGNWRITING MOVEMENT-FLOORPLANE LOOP HITTING CEILING ",
      ["SMALL SINGLE,LARGE SINGLE,SMALL DOUBLE,LARGE DOUBLE"]⟩,
    ⟨0x1D9C1, "SIGNWRITING MOVEMENT-FLOORPLANE WAVE HITTING CEILING ", ["SMALL,LARGE"]⟩,
    ⟨0x1D9C3, "SIGNWRITING ROTATION-FLOORPLANE ",
      ["SINGLE HITTING CEILING,DOUBLE HITTING CEILING,ALTERNATING HITTING CEILING"]⟩,
    ⟨0x1D9C6, "SIGNWRITING MOVEMENT-FLOORPLANE CURVE HITTING FLOOR ", ["SMALL,LARGE"]⟩,
    ⟨0x1D9C8, "SIGNWRITING MOVEMENT-FLOORPLANE HUMP HITTING FLOOR ",
      ["SMALL DOUBLE,LARGE DOUBLE,TRIPLE SMALL TRIPLE,TRIPLE LARGE TRIPLE"]⟩,
    ⟨0x1D9CC, "SIGNWRITING MOVEMENT-FLOORPLANE LOOP HITTING FLOOR ",
      ["SMALL SINGLE,LARGE SINGLE,SMALL DOUBLE,LARGE DOUBLE"]⟩,
    ⟨0x1D9D0, "SIGNWRITING MOVEMENT-FLOORPLANE WAVE HITTING FLOOR ", ["SMALL,LARGE"]⟩,
    ⟨0x1D9D2, "SIGNWRITING ROTATION-FLOORPLANE ",
      ["SINGLE HITTING FLOOR,DOUBLE HITTING FLOOR,ALTERNATING HITTING FLOOR"]⟩,
    ⟨0x1D9D5, "SIGNWRITING MOVEMENT-FLOORPLANE ",
      ["CURVE SMALL,CURVE MEDIUM,CURVE LARGE,CURVE LARGEST,CURVE COMBINED,HUMP SMALL",
        "LOOP SMALL,WAVE SNAKE,WAVE SMALL,WAVE LARGE"]⟩,
    ⟨0x1D9DF, "SIGNWRITING ROTATION-FLOORPLANE ", ["SINGLE,DOUBLE,ALTERNATING"]⟩,
    ⟨0x1D9E2, "", ["SIGNWRITING MOVEMENT-FLOORPLANE SHAKING PARALLEL"]⟩,
    ⟨0x1D9E3, "SIGNWRITING MOVEMENT-WALLPLANE ARM CIRCLE ",
      ["SMALL SINGLE,MEDIUM SINGLE,SMALL DOUBLE,MEDIUM DOUBLE"]⟩,
    ⟨0x1D9E7, "SIGNWRITING MOVEMENT-FLOORPLANE ARM CIRCLE HITTING WALL ",
      ["SMALL SINGLE,MEDIUM SINGLE,LARGE SINGLE,SMALL DOUBLE,MEDIUM DOUBLE,LARGE DOUBLE"]⟩,
    ⟨0x1D9ED, "SIGNWRITING MOVEMENT-WALLPLANE WRIST CIRCLE FRONT ", ["SINGLE,DOUBLE"]⟩,
    ⟨0x1D9EF, "SIGNWRITING MOVEMENT-FLOORPLANE WRIST CIRCLE HITTING WALL ", ["SINGLE,DOUBLE"]⟩,
    ⟨0x1D9F1, "SIGNWRITING MOVEMENT-WALLPLANE FINGER CIRCLES ", ["SINGLE,DOUBLE"]⟩,
    ⟨0x1D9F3, "SIGNWRITING MOVEMENT-FLOORPLANE FINGER CIRCLES HITTING WALL ", ["SINGLE,DOUBLE"]⟩,
    ⟨0x1D9F5, "SIGNWRITING DYNAMIC ",
      ["ARROWHEAD SMALL,ARROWHEAD LARGE,FAST,SLOW,TENSE,RELAXED,SIMULTANEOUS",
        "SIMULTANEOUS ALTERNATING,EVERY OTHER TIME,GRADUAL"]⟩,
    ⟨0x1D9FF, "", ["SIGNWRITING HEAD"]⟩,
    ⟨0x1DA00, "SIGNWRITING HEAD ",
      ["RIM,MOVEMENT-WALLPLANE STRAIGHT,MOVEMENT-WALLPLANE TILT,MOVEMENT-FLOORPLANE STRAIGHT",
        "MOVEMENT-WALLPLANE CURVE,MOVEMENT-FLOORPLANE CURVE,MOVEMENT CIRCLE"]⟩,
    ⟨0x1DA07, "SIGNWRITING FACE DIRECTION POSITION NOSE ",
      ["FORWARD TILTING,UP OR DOWN,UP OR DOWN TILTING"]⟩,
    ⟨0x1DA0A, "SIGNWRITING EYEBROWS STRAIGHT ", ["UP,NEUTRAL,DOWN"]⟩,
    ⟨0x1DA0D, "SIGNWRITING DREAMY EYEBROWS ",
      ["NEUTRAL DOWN,DOWN NEUTRAL,UP NEUTRAL,NEUTRAL UP"]⟩,
    ⟨0x1DA11, "SIGNWRITING ",
      ["FOREHEAD NEUTRAL,FOREHEAD CONTACT,FOREHEAD WRINKLED,EYES OPEN,EYES SQUEEZED",
        "EYES CLOSED,EYE BLINK SINGLE,EYE BLINK MULTIPLE,EYES HALF OPEN,EYES WIDE OPEN",
        "EYES HALF CLOSED,EYES WIDENING MOVEMENT,EYE WINK,EYELASHES UP,EYELASHES DOWN",
        "EYELASHES FLUTTERING"]⟩,
    ⟨0x1DA21, "SIGNWRITING EYEGAZE-",
      ["WALLPLANE STRAIGHT,WALLPLANE STRAIGHT DOUBLE,WALLPLANE STRAIGHT ALTERNATING",
        "FLOORPLANE STRAIGHT,FLOORPLANE STRAIGHT DOUBLE,FLOORPLANE STRAIGHT ALTERNATING",
        "WALLPLANE CURVED,FLOORPLANE CURVED,WALLPLANE CIRCLING"]⟩,
    ⟨0x1DA2A, "SIGNWRITING ",
      ["CHEEKS PUFFED,CHEEKS NEUTRAL,CHEEKS SUCKED,TENSE CHEEKS HIGH,TENSE CHEEKS MIDDLE",
        "TENSE CHEEKS LOW,EARS,NOSE NEUTRAL,NOSE CONTACT,NOSE WRINKLES,NOSE WIGGLES",
        "AIR BLOWING OUT,AIR SUCKING IN,AIR BLOW SMALL ROTATIONS,AIR SUCK SMALL ROTATIONS",
        "BREATH INHALE,BREATH EXHALE"]⟩,
    ⟨0x1DA3B, "SIGNWRITING MOUTH ",
      ["CLOSED NEUTRAL,CLOSED FORWARD,CLOSED CONTACT,SMILE,SMILE WRINKLED,SMILE OPEN,FROWN",
        "FROWN WRINKLED,FROWN OPEN,OPEN CIRCLE,OPEN FORWARD,OPEN WRINKLED,OPEN OVAL",
        "OPEN OVAL WRINKLED,OPEN OVAL YAWN,OPEN RECTANGLE,OPEN RECTANGLE WRINKLED",
        "OPEN RECTANGLE YAWN,KISS,KISS FORWARD,KISS WRINKLED,TENSE,TENSE FORWARD,TENSE SUCKED"]⟩,
    ⟨0x1DA53, "SIGNWRITING ",
      ["LIPS PRESSED TOGETHER,LIP LOWER OVER UPPER,LIP UPPER OVER LOWER,MOUTH CORNERS",
        "MOUTH WRINKLES SINGLE,MOUTH WRINKLES DOUBLE,TONGUE STICKING OUT FAR",
        "TONGUE LICKING LIPS,TONGUE TIP BETWEEN LIPS,TONGUE TIP TOUCHING INSIDE MOUTH",
        "TONGUE INSIDE MOUTH RELAXED,TONGUE MOVES AGAINST CHEEK,TONGUE CENTRE STICKING OUT",
        "TONGUE CENTRE INSIDE MOUTH,TEETH,TEETH MOVEMENT,TEETH ON TONGUE",
        "TEETH ON TONGUE MOVEMENT,TEETH ON LIPS,TEETH ON LIPS MOVEMENT,TEETH BITE LIPS",
        "MOVEMENT-WALLPLANE JAW,MOVEMENT-FLOORPLANE JAW,NECK,HAIR,EXCITEMENT,SHOULDER HIP SPINE",
        "SHOULDER HIP POSITIONS,WALLPLANE SHOULDER HIP MOVE,FLOORPLANE SHOULDER HIP MOVE",
        "SHOULDER TILTING FROM WAIST,TORSO-WALLPLANE STRAIGHT STRETCH",
        "TORSO-WALLPLANE CURVED BEND,TORSO-FLOORPLANE TWISTING",
        "UPPER BODY TILTING FROM HIP JOINTS,LIMB COMBINATION"]⟩,
    ⟨0x1DA77, "SIGNWRITING LIMB LENGTH-", ["1,2,3,4,5,6,7"]⟩,
    ⟨0x1DA7E, "SIGNWRITING ",
      ["FINGER,LOCATION-WALLPLANE SPACE,LOCATION-FLOORPLANE SPACE,LOCATION HEIGHT",
        "LOCATION WIDTH,LOCATION DEPTH,LOCATION HEAD NECK,LOCATION TORSO,LOCATION LIMBS DIGITS",
        "COMMA,FULL STOP,SEMICOLON,COLON,PARENTHESIS"]⟩,
    ⟨0x1DA9B, "SIGNWRITING FILL MODIFIER-", ["2,3,4,5,6"]⟩,
    ⟨0x1DAA1, "SIGNWRITING ROTATION MODIFIER-", ["2,3,4,5,6,7,8,9,10,11,12,13,14,15,16"]⟩,
    ⟨0x1DF00, "LATIN ",
      ["SMALL LETTER FENG DIGRAPH WITH TRILL,SMALL LETTER REVERSED SCRIPT G",
        "LETTER SMALL CAPITAL TURNED G,SMALL LETTER REVERSED K,LETTER SMALL CAPITAL L WITH BELT"]⟩,
    ⟨0x1DF05, "LATIN SMALL LETTER ",
      ["LEZH WITH RETROFLEX HOOK,TURNED Y WITH BELT,REVERSED ENG",
        "TURNED R WITH LONG LEG AND RETROFLEX HOOK,T WITH HOOK AND RETROFLEX HOOK"]⟩,
    ⟨0x1DF0A, "LATIN ",
      ["LETTER RETROFLEX CLICK WITH RETROFLEX HOOK,SMALL LETTER ESH WITH DOUBLE BAR",
        "SMALL LETTER ESH WITH DOUBLE BAR AND CURL,SMALL LETTER TURNED T WITH CURL",
        "LETTER INVERTED GLOTTAL STOP WITH CURL,LETTER STRETCHED C WITH CURL",
        "LETTER SMALL CAPITAL TURNED K"]⟩,
    ⟨0x1DF11, "LATIN SMALL LETTER ",
      ["L WITH FISHHOOK,DEZH DIGRAPH WITH PALATAL HOOK,L WITH BELT AND PALATAL HOOK",
        "ENG WITH PALATAL HOOK,TURNED R WITH PALATAL HOOK,R WITH FISHHOOK AND PALATAL HOOK",
        "TESH DIGRAPH WITH PALATAL HOOK,EZH WITH PALATAL HOOK,DEZH DIGRAPH WITH RETROFLEX HOOK",
        "I WITH STROKE AND RETROFLEX HOOK,O WITH RETROFLEX HOOK",
        "TESH DIGRAPH WITH RETROFLEX HOOK,C WITH RETROFLEX HOOK,S WITH CURL"]⟩,
    ⟨0x1E000, "COMBINING GLAGOLITIC LETTER ", ["AZU,BUKY,VEDE,GLAGOLI,DOBRO,YESTU,ZHIVETE"]⟩,
    ⟨0x1E008, "COMBINING GLAGOLITIC LETTER ",
      ["ZEMLJA,IZHE,INITIAL IZHE,I,DJERVI,KAKO,LJUDIJE,MYSLITE,NASHI,ONU,POKOJI,RITSI,SLOVO",
        "TVRIDO,UKU,FRITU,HERU"]⟩,
    ⟨0x1E01B, "COMBINING GLAGOLITIC LETTER ", ["SHTA,TSI,CHRIVI,SHA,YERU,YERI,YATI"]⟩,
    ⟨0x1E023, "COMBINING GLAGOLITIC LETTER ", ["YU,SMALL YUS"]⟩,
    ⟨0x1E026, "COMBINING GLAGOLITIC LETTER ",
      ["YO,IOTATED SMALL YUS,BIG YUS,IOTATED BIG YUS,FITA"]⟩,
    ⟨0x1E100, "NYIAKENG PUACHUE HMONG LETTER ",
      ["MA,TSA,NTA,TA,HA,NA,XA,NKA,CA,LA,SA,ZA,NCA,NTSA,KA,DA,NYA,NRA,VA,NTXA,TXA,FA,RA,QA,YA",
        "NQA,PA,XYA,NPA,DLA,NPLA,HAH,MLA,PLA,GA,RRA,A,AA,I,U,O,OO,E,EE,W"]⟩,
    ⟨0x1E130, "NYIAKENG PUACHUE HMONG ",
      ["TONE-B,TONE-M,TONE-J,TONE-V,TONE-S,TONE-G,TONE-D,SIGN FOR PERSON,SIGN FOR THING",
        "SIGN FOR LOCATION,SIGN FOR ANIMAL,SIGN FOR INVERTEBRATE,SIGN XW XW,SYLLABLE LENGTHENER"]⟩,
    ⟨0x1E140, "NYIAKENG PUACHUE HMONG DIGIT ",
      ["ZERO,ONE,TWO,THREE,FOUR,FIVE,SIX,SEVEN,EIGHT,NINE"]⟩,
    ⟨0x1E14E, "NYIAKENG PUACHUE HMONG ", ["LOGOGRAM NYAJ,CIRCLED CA"]⟩,
    ⟨0x1E290, "TOTO LETTER ",
      ["PA,BA,TA,DA,KA,GA,MA,NA,NGA,SA,CHA,YA,WA,JA,HA,RA,LA,I,BREATHY I,IU,BREATHY IU,U,E",
        "BREATHY E,EO,BREATHY EO,O,AE,BREATHY AE,A"]⟩,
    ⟨0x1E2AE, "", ["TOTO SIGN RISING TONE"]⟩,
    ⟨0x1E2C0, "WANCHO LETTER ",
      ["AA,A,BA,CA,DA,GA,YA,PHA,LA,NA,PA,TA,THA,FA,SA,SHA,JA,ZA,WA,VA,KA,O,AU,RA,MA,KHA,HA,E,I",
        "NGA,U,LLHA,TSA,TRA,ONG,AANG,ANG,ING,ON,EN,AAN,NYA,UEN,YIH"]⟩,
    ⟨0x1E2EC, "WANCHO TONE ", ["TUP,TUPNI,KOI,KOINI"]⟩,
    ⟨0x1E2F0, "WANCHO DIGIT ", ["ZERO,ONE,TWO,THREE,FOUR,FIVE,SIX,SEVEN,EIGHT,NINE"]⟩,
    ⟨0x1E2FF, "", ["WANCHO NGUN SIGN"]⟩,
    ⟨0x1E7E0, "ETHIOPIC SYLLABLE ", ["HHYA,HHYU,HHYI,HHYAA,HHYEE,HHYE,HHYO"]⟩,
    ⟨0x1E7E8, "ETHIOPIC SYLLABLE ", ["GURAGE HHWA,HHWI,HHWEE,HHWE"]⟩,
    ⟨0x1E7ED, "ETHIOPIC SYLLABLE GURAGE ", ["MWI,MWEE"]⟩,
    ⟨0x1E7F0, "ETHIOPIC SYLLABLE GURAGE ",
      ["QWI,QWEE,QWE,BWI,BWEE,KWI,KWEE,KWE,GWI,GWEE,GWE,FWI,FWEE,PWI,PWEE"]⟩,
    ⟨0x1E800, "MENDE KIKAKUI SYLLABLE ",
      ["M001 KI,M002 KA,M003 KU,M065 KEE,M095 KE,M076 KOO,M048 KO,M179 KUA,M004 WI,M005 WA",
        "M006 WU,M126 WEE,M118 WE,M114 WOO,M045 WO,M194 WUI,M143 WEI,M061 WVI,M049 WVA,M139 WVE",
        "M007 MIN,M008 MAN,M009 MUN,M059 MEN,M094 MON,M154 MUAN,M189 MUEN,M010 BI,M011 BA",
        "M012 BU,M150 BEE,M097 BE,M103 BOO,M138 BO,M013 I,M014 A,M015 U,M163 EE,M100 E,M165 OO",
        "M147 O,M137 EI,M131 IN,M135 IN,M195 AN,M178 EN,M019 SI,M020 SA,M021 SU,M162 SEE",
        "M116 SE,M136 SOO,M079 SO,M196 SIA,M025 LI,M026 LA,M027 LU,M084 LEE,M073 LE,M054 LOO",
        "M153 LO,M110 LONG LE,M016 DI,M017 DA,M018 DU,M089 DEE,M180 DOO,M181 DO,M022 TI,M023 TA",
        "M024 TU,M091 TEE,M055 TE,M104 TOO,M069 TO,M028 JI,M029 JA,M030 JU,M157 JEE,M113 JE",
        "M160 JOO,M063 JO,M175 LONG JO,M031 YI,M032 YA,M033 YU,M109 YEE,M080 YE,M141 YOO",
        "M121 YO,M034 FI,M035 FA,M036 FU,M078 FEE,M075 FE,M133 FOO,M088 FO,M197 FUA,M101 FAN",
        "M037 NIN,M038 NAN,M039 NUN,M117 NEN,M169 NON,M176 HI,M041 HA,M186 HU,M040 HEE,M096 HE",
        "M042 HOO,M140 HO,M083 HEEI,M128 HOOU,M053 HIN,M130 HAN,M087 HUN,M052 HEN,M193 HON",
        "M046 HUAN,M090 NGGI,M043 NGGA,M082 NGGU,M115 NGGEE,M146 NGGE,M156 NGGOO,M120 NGGO",
        "M159 NGGAA,M127 NGGUA,M086 LONG NGGE,M106 LONG NGGOO,M183 LONG NGGO,M155 GI,M111 GA",
        "M168 GU,M190 GEE,M166 GUEI,M167 GUAN,M184 NGEN,M057 NGON,M177 NGUAN,M068 PI,M099 PA",
        "M050 PU,M081 PEE,M051 PE,M102 POO,M066 PO,M145 MBI,M062 MBA,M122 MBU,M047 MBEE",
        "M188 MBEE,M072 MBE,M172 MBOO,M174 MBO,M187 MBUU,M161 LONG MBE,M105 LONG MBOO",
        "M142 LONG MBO,M132 KPI,M092 KPA,M074 KPU,M044 KPEE,M108 KPE,M112 KPOO,M158 KPO",
        "M124 GBI,M056 GBA,M148 GBU,M093 GBEE,M107 GBE,M071 GBOO,M070 GBO,M171 RA,M123 NDI",
        "M129 NDA,M125 NDU,M191 NDEE,M119 NDE,M067 NDOO,M064 NDO,M152 NJA,M192 NJU,M149 NJEE",
        "M134 NJOO,M182 VI,M185 VA,M151 VU,M173 VEE,M085 VE,M144 VOO,M077 VO,M164 NYIN",
        "M058 NYAN,M170 NYUN,M098 NYEN,M060 NYON"]⟩,
    ⟨0x1E8C7, "MENDE KIKAKUI DIGIT ", ["ONE,TWO,THREE,FOUR,FIVE,SIX,SEVEN,EIGHT,NINE"]⟩,
    ⟨0x1E8D0, "MENDE KIKAKUI COMBINING NUMBER ",
      ["TEENS,TENS,HUNDREDS,THOUSANDS,TEN THOUSANDS,HUNDRED THOUSANDS,MILLIONS"]⟩,
    ⟨0x1E900, "ADLAM CAPITAL LETTER ",
      ["ALIF,DAALI,LAAM,MIIM,BA,SINNYIIYHE,PE,BHE,RA,E,FA,I,O,DHA,YHE,WAW,NUN,KAF,YA,U,JIIM",
        "CHI,HA,QAAF,GA,NYA,TU,NHA,VA,KHA,GBE,ZAL,KPO,SHA"]⟩,
    ⟨0x1E922, "ADLAM SMALL LETTER ",
      ["ALIF,DAALI,LAAM,MIIM,BA,SINNYIIYHE,PE,BHE,RA,E,FA,I,O,DHA,YHE,WAW,NUN,KAF,YA,U,JIIM",
        "CHI,HA,QAAF,GA,NYA,TU,NHA,VA,KHA,GBE,ZAL,KPO,SHA"]⟩,
    ⟨0x1E944, "ADLAM ",
      ["ALIF LENGTHENER,VOWEL LENGTHENER,GEMINATION MARK,HAMZA,CONSONANT MODIFIER",
        "GEMINATE CONSONANT MODIFIER,NUKTA,NASALIZATION MARK"]⟩,
    ⟨0x1E950, "ADLAM DIGIT ", ["ZERO,ONE,TWO,THREE,FOUR,FIVE,SIX,SEVEN,EIGHT,NINE"]⟩,
    ⟨0x1E95E, "ADLAM INITIAL ", ["EXCLAMATION MARK,QUESTION MARK"]⟩,
    ⟨0x1EC71, "INDIC SIYAQ NUMBER ",
      ["ONE,TWO,THREE,FOUR,FIVE,SIX,SEVEN,EIGHT,NINE,TEN,TWENTY,THIRTY,FORTY,FIFTY,SIXTY",
        "SEVENTY,EIGHTY,NINETY,ONE HUNDRED,TWO HUNDRED,THREE HUNDRED,FOUR HUNDRED,FIVE HUNDRED",
        "SIX HUNDRED,SEVEN HUNDRED,EIGHT HUNDRED,NINE HUNDRED,ONE THOUSAND,TWO THOUSAND",
        "THREE THOUSAND,FOUR THOUSAND,FIVE THOUSAND,SIX THOUSAND,SEVEN THOUSAND,EIGHT THOUSAND",
        "NINE THOUSAND,TEN THOUSAND,TWENTY THOUSAND,THIRTY THOUSAND,FORTY THOUSAND",
        "FIFTY THOUSAND,SIXTY THOUSAND,SEVENTY THOUSAND,EIGHTY THOUSAND,NINETY THOUSAND,LAKH",
        "LAKHAN"]⟩,
    ⟨0x1ECA0, "INDIC SIYAQ ", ["LAKH MARK,NUMBER KAROR,NUMBER KARORAN"]⟩,
    ⟨0x1ECA3, "INDIC SIYAQ NUMBER PREFIXED ", ["ONE,TWO,THREE,FOUR,FIVE,SIX,SEVEN,EIGHT,NINE"]⟩,
    ⟨0x1ECAC, "INDIC SIYAQ ",
      ["PLACEHOLDER,FRACTION ONE QUARTER,FRACTION ONE HALF,FRACTION THREE QUARTERS,RUPEE MARK",
        "NUMBER ALTERNATE ONE,NUMBER ALTERNATE TWO,NUMBER ALTERNATE TEN THOUSAND",
        "ALTERNATE LAKH MARK"]⟩,
    ⟨0x1ED01, "OTTOMAN SIYAQ NUMBER ",
      ["ONE,TWO,THREE,FOUR,FIVE,SIX,SEVEN,EIGHT,NINE,TEN,TWENTY,THIRTY,FORTY,FIFTY,SIXTY",
        "SEVENTY,EIGHTY,NINETY,ONE HUNDRED,TWO HUNDRED,THREE HUNDRED,FOUR HUNDRED,FIVE HUNDRED",
        "SIX HUNDRED,SEVEN HUNDRED,EIGHT HUNDRED,NINE HUNDRED,ONE THOUSAND,TWO THOUSAND",
        "THREE THOUSAND,FOUR THOUSAND,FIVE THOUSAND,SIX THOUSAND,SEVEN THOUSAND,EIGHT THOUSAND",
        "NINE THOUSAND,TEN THOUSAND,TWENTY THOUSAND,THIRTY THOUSAND,FORTY THOUSAND",
        "FIFTY THOUSAND,SIXTY THOUSAND,SEVENTY THOUSAND,EIGHTY THOUSAND,NINETY THOUSAND"]⟩,
    ⟨0x1ED2E, "", ["OTTOMAN SIYAQ MARRATAN"]⟩,
    ⟨0x1ED2F, "OTTOMAN SIYAQ ALTERNATE NUMBER ",
      ["TWO,THREE,FOUR,FIVE,SIX,SEVEN,EIGHT,NINE,TEN,FOUR HUNDRED,SIX HUNDRED,TWO THOUSAND",
        "TEN THOUSAND"]⟩,
    ⟨0x1ED3C, "OTTOMAN SIYAQ FRACTION ONE ", ["HALF,SIXTH"]⟩,
    ⟨0x1EE00, "ARABIC MATHEMATICAL ", ["ALEF,BEH,JEEM,DAL"]⟩,
    ⟨0x1EE05, "ARABIC MATHEMATICAL ",
      ["WAW,ZAIN,HAH,TAH,YEH,KAF,LAM,MEEM,NOON,SEEN,AIN,FEH,SAD,QAF,REH,SHEEN,TEH,THEH,KHAH",
        "THAL,DAD,ZAH,GHAIN,DOTLESS BEH,DOTLESS NOON,DOTLESS FEH,DOTLESS QAF"]⟩,
    ⟨0x1EE21, "ARABIC MATHEMATICAL INITIAL ", ["BEH,JEEM"]⟩,
    ⟨0x1EE24, "", ["ARABIC MATHEMATICAL INITIAL HEH"]⟩,
    ⟨0x1EE27, "", ["ARABIC MATHEMATICAL INITIAL HAH"]⟩,
    ⟨0x1EE29, "ARABIC MATHEMATICAL INITIAL ", ["YEH,KAF,LAM,MEEM,NOON,SEEN,AIN,FEH,SAD,QAF"]⟩,
    ⟨0x1EE34, "ARABIC MATHEMATICAL INITIAL ", ["SHEEN,TEH,THEH,KHAH"]⟩,
    ⟨0x1EE39, "", ["ARABIC MATHEMATICAL INITIAL DAD"]⟩,
    ⟨0x1EE3B, "", ["ARABIC MATHEMATICAL INITIAL GHAIN"]⟩,
    ⟨0x1EE42, "", ["ARABIC MATHEMATICAL TAILED JEEM"]⟩,
    ⟨0x1EE47, "", ["ARABIC MATHEMATICAL TAILED HAH"]⟩,
    ⟨0x1EE49, "", ["ARABIC MATHEMATICAL TAILED YEH"]⟩,
    ⟨0x1EE4B, "", ["ARABIC MATHEMATICAL TAILED LAM"]⟩,
    ⟨0x1EE4D, "ARABIC MATHEMATICAL TAILED ", ["NOON,SEEN,AIN"]⟩,
    ⟨0x1EE51, "ARABIC MATHEMATICAL TAILED ", ["SAD,QAF"]⟩,
    ⟨0x1EE54, "", ["ARABIC MATHEMATICAL TAILED SHEEN"]⟩,
    ⟨0x1EE57, "", ["ARABIC MATHEMATICAL TAILED KHAH"]⟩,
    ⟨0x1EE59, "", ["ARABIC MATHEMATICAL TAILED DAD"]⟩,
    ⟨0x1EE5B, "", ["ARABIC MATHEMATICAL TAILED GHAIN"]⟩,
    ⟨0x1EE5D, "", ["ARABIC MATHEMATICAL TAILED DOTLESS NOON"]⟩,
    ⟨0x1EE5F, "", ["ARABIC MATHEMATICAL TAILED DOTLESS QAF"]⟩,
    ⟨0x1EE61, "ARABIC MATHEMATICAL STRETCHED ", ["BEH,JEEM"]⟩,
    ⟨0x1EE64, "", ["ARABIC MATHEMATICAL STRETCHED HEH"]⟩,
    ⟨0x1EE67, "ARABIC MATHEMATICAL STRETCHED ", ["HAH,TAH,YEH,KAF"]⟩,
    ⟨0x1EE6C, "ARABIC MATHEMATICAL STRETCHED ", ["MEEM,NOON,SEEN,AIN,FEH,SAD,QAF"]⟩,
    ⟨0x1EE74, "ARABIC MATHEMATICAL STRETCHED ", ["SHEEN,TEH,THEH,KHAH"]⟩,
    ⟨0x1EE79, "ARABIC MATHEMATICAL STRETCHED ", ["DAD,ZAH,GHAIN,DOTLESS BEH"]⟩,
    ⟨0x1EE7E, "", ["ARABIC MATHEMATICAL STRETCHED DOTLESS FEH"]⟩,
    ⟨0x1EE80, "ARABIC MATHEMATICAL LOOPED ", ["ALEF,BEH,JEEM,DAL,HEH,WAW,ZAIN,HAH,TAH,YEH"]⟩,
    ⟨0x1EE8B, "ARABIC MATHEMATICAL LOOPED ",
      ["LAM,MEEM,NOON,SEEN,AIN,FEH,SAD,QAF,REH,SHEEN,TEH,THEH,KHAH,THAL,DAD,ZAH,GHAIN"]⟩,
    ⟨0x1EEA1, "ARABIC MATHEMATICAL DOUBLE-STRUCK ", ["BEH,JEEM,DAL"]⟩,
    ⟨0x1EEA5, "ARABIC MATHEMATICAL DOUBLE-STRUCK ", ["WAW,ZAIN,HAH,TAH,YEH"]⟩,
    ⟨0x1EEAB, "ARABIC MATHEMATICAL DOUBLE-STRUCK ",
      ["LAM,MEEM,NOON,SEEN,AIN,FEH,SAD,QAF,REH,SHEEN,TEH,THEH,KHAH,THAL,DAD,ZAH,GHAIN"]⟩,
    ⟨0x1EEF0, "ARABIC MATHEMATICAL OPERATOR ", ["MEEM WITH HAH WITH TATWEEL,HAH WITH DAL"]⟩]

end Recommender.NameRun
