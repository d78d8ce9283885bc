import BlockSync.Text.CharacterName.Block

namespace BlockSync.Text.CharacterName

/-!
# Names: Notation

Characters from 1CF00 to 1D3FF:
musical notation and counting rods.
-/

/-- The names from 1CF00 to 1D3FF. -/
def musicalNotation : List Block := [
  ⟨0x1CF00, "ZNAMENNY COMBINING MARK ", [
    "GORAZDO NIZKO S KRYZHEM ON LEFT;NIZKO S KRYZHEM ON LEFT;TSATA ON LEFT;GORAZDO NIZKO ON LEFT",
    "NIZKO ON LEFT;SREDNE ON LEFT;MALO POVYSHE ON LEFT;POVYSHE ON LEFT;VYSOKO ON LEFT",
    "MALO POVYSHE S KHOKHLOM ON LEFT;POVYSHE S KHOKHLOM ON LEFT;VYSOKO S KHOKHLOM ON LEFT",
    "GORAZDO NIZKO S KRYZHEM ON RIGHT;NIZKO S KRYZHEM ON RIGHT;TSATA ON RIGHT",
    "GORAZDO NIZKO ON RIGHT;NIZKO ON RIGHT;SREDNE ON RIGHT;MALO POVYSHE ON RIGHT",
    "POVYSHE ON RIGHT;VYSOKO ON RIGHT;MALO POVYSHE S KHOKHLOM ON RIGHT",
    "POVYSHE S KHOKHLOM ON RIGHT;VYSOKO S KHOKHLOM ON RIGHT;TSATA S KRYZHEM",
    "MALO POVYSHE S KRYZHEM;STRANNO MALO POVYSHE;POVYSHE S KRYZHEM;POVYSHE STRANNO",
    "VYSOKO S KRYZHEM;MALO POVYSHE STRANNO;GORAZDO VYSOKO;ZELO;ON;RAVNO;TIKHAYA;BORZAYA;UDARKA",
    "PODVERTKA;LOMKA;KUPNAYA;KACHKA;ZEVOK;SKOBA;RAZSEKA;KRYZH ON LEFT"]⟩,
  ⟨0x1CF30, "ZNAMENNY COMBINING TONAL RANGE MARK ", ["MRACHNO;SVETLO;TRESVETLO"]⟩,
  ⟨0x1CF33, "ZNAMENNY COMBINING MARK ", [
    "ZADERZHKA;DEMESTVENNY ZADERZHKA;OTSECHKA;PODCHASHIE;PODCHASHIE WITH VERTICAL STROKE;CHASHKA",
    "CHASHKA POLNAYA;OBLACHKO;SOROCHYA NOZHKA;TOCHKA;DVOETOCHIE"]⟩,
  ⟨0x1CF3E, "ZNAMENNY COMBINING ", [
    "ATTACHING VERTICAL OMET;MARK CURVED OMET;MARK KRYZH;LOWER TONAL RANGE INDICATOR"]⟩,
  ⟨0x1CF42, "ZNAMENNY PRIZNAK MODIFIER ", ["LEVEL-2;LEVEL-3;DIRECTION FLIP;KRYZH;ROG"]⟩,
  ⟨0x1CF50, "ZNAMENNY NEUME ", [
    "KRYUK;KRYUK TIKHY;PARAKLIT;DVA V CHELNU;KLYUCH;ZANOZHEK;STOPITSA;STOPITSA S OCHKOM",
    "PEREVODKA;PEREVODKA NEPOSTOYANNAYA;STOPITSA WITH SOROCHYA NOZHKA;CHELYUSTKA;PALKA;ZAPYATAYA"]⟩,
  ⟨0x1CF5E, "ZNAMENNY NEUME GOLUBCHIK ", ["BORZY;TIKHY;MRACHNY;SVETLY;TRESVETLY"]⟩,
  ⟨0x1CF63, "ZNAMENNY NEUME VRAKHIYA ", [
    "PROSTAYA;MRACHNAYA;SVETLAYA;TRESVETLAYA;KLYUCHEVAYA PROSTAYA;KLYUCHEVAYA MRACHNAYA",
    "KLYUCHEVAYA SVETLAYA;KLYUCHEVAYA TRESVETLAYA"]⟩,
  ⟨0x1CF6B, "ZNAMENNY NEUME ", [
    "DOUBLE ZAPYATAYA;REVERSED CHELYUSTKA;DERBITSA;KHAMILO;CHASHKA;PODCHASHIE",
    "SKAMEYTSA MRACHNAYA;SKAMEYTSA SVETLAYA;SKAMEYTSA TRESVETLAYA;SKAMEYTSA TIKHAYA",
    "DEMESTVENNY KLYUCH;SKAMEYTSA KLYUCHEVAYA SVETLAYA;SKAMEYTSA KLYUCHENEPOSTOYANNAYA",
    "SKAMEYTSA KLYUCHEVAYA TIKHAYA"]⟩,
  ⟨0x1CF79, "ZNAMENNY NEUME SKAMEYTSA DVOECHELNAYA ", [
    "PROSTAYA;SVETLAYA;NEPOSTOYANNAYA;KLYUCHEVAYA"]⟩,
  ⟨0x1CF7D, "ZNAMENNY NEUME ", [
    "SLOZHITIE;SLOZHITIE S ZAPYATOY;SLOZHITIE ZAKRYTOE;SLOZHITIE S KRYZHEM;KRYZH;ROG;FITA;KOBYLA",
    "ZMEYTSA;STATYA;STATYA S ZAPYATOY;STATYA S KRYZHEM;STATYA S ZAPYATOY I KRYZHEM",
    "STATYA S KRYZHEM I ZAPYATOY;STATYA ZAKRYTAYA;STATYA ZAKRYTAYA S ZAPYATOY;STATYA S ROGOM",
    "STATYA S DVUMYA ZAPYATYMI;STATYA S ZAPYATOY I PODCHASHIEM;POLKULIZMY;STATYA NEPOSTOYANNAYA"]⟩,
  ⟨0x1CF92, "ZNAMENNY NEUME STRELA ", [
    "PROSTAYA;MRACHNOTIKHAYA;KRYZHEVAYA;POLUPOVODNAYA;POVODNAYA;NEPOSTOYANNAYA;KLYUCHEPOVODNAYA",
    "KLYUCHENEPOSTOYANNAYA;TIKHAYA PUTNAYA;DVOECHELNAYA;DVOECHELNOKRYZHEVAYA;DVOECHELNOPOVODNAYA",
    "DVOECHELNAYA KLYUCHEVAYA;DVOECHELNOPOVODNAYA KLYUCHEVAYA;GROMNAYA WITH SINGLE ZAPYATAYA",
    "GROMOPOVODNAYA WITH SINGLE ZAPYATAYA;GROMNAYA;GROMOPOVODNAYA",
    "GROMOPOVODNAYA WITH DOUBLE ZAPYATAYA;GROMOKRYZHEVAYA;GROMOKRYZHEVAYA POVODNAYA"]⟩,
  ⟨0x1CFA7, "ZNAMENNY NEUME ", [
    "MECHIK;MECHIK POVODNY;MECHIK KLYUCHEVOY;MECHIK KLYUCHEPOVODNY;MECHIK KLYUCHENEPOSTOYANNY",
    "STRELA TRYASOGLASNAYA;STRELA TRYASOPOVODNAYA;STRELA TRYASOSTRELNAYA;OSOKA;OSOKA SVETLAYA",
    "OSOKA TRESVETLAYA;OSOKA KRYUKOVAYA SVETLAYA;OSOKA KLYUCHEVAYA SVETLAYA",
    "OSOKA KLYUCHEVAYA NEPOSTOYANNAYA;STRELA KRYUKOVAYA"]⟩,
  ⟨0x1CFB6, "ZNAMENNY NEUME STRELA KRYUKOVAYA ", [
    "POVODNAYA;GROMNAYA WITH SINGLE ZAPYATAYA;GROMOPOVODNAYA WITH SINGLE ZAPYATAYA;GROMNAYA",
    "GROMOPOVODNAYA;GROMOPOVODNAYA WITH DOUBLE ZAPYATAYA;GROMOKRYZHEVAYA",
    "GROMOKRYZHEVAYA POVODNAYA;TRYASKA"]⟩,
  ⟨0x1CFBF, "ZNAMENNY NEUME ", ["KUFISMA;OBLAKO;DUDA;NEMKA;PAUK"]⟩,
  ⟨0x1D000, "BYZANTINE MUSICAL SYMBOL ", [
    "PSILI;DASEIA;PERISPOMENI;OXEIA EKFONITIKON;OXEIA DIPLI;VAREIA EKFONITIKON;VAREIA DIPLI",
    "KATHISTI;SYRMATIKI;PARAKLITIKI;YPOKRISIS;YPOKRISIS DIPLI;KREMASTI;APESO EKFONITIKON",
    "EXO EKFONITIKON;TELEIA;KENTIMATA;APOSTROFOS;APOSTROFOS DIPLI;SYNEVMA;THITA;OLIGON ARCHAION",
    "GORGON ARCHAION;PSILON;CHAMILON;VATHY;ISON ARCHAION;KENTIMA ARCHAION;KENTIMATA ARCHAION",
    "SAXIMATA;PARICHON;STAVROS APODEXIA;OXEIAI ARCHAION;VAREIAI ARCHAION;APODERMA ARCHAION",
    "APOTHEMA;KLASMA;REVMA;PIASMA ARCHAION;TINAGMA;ANATRICHISMA;SEISMA;SYNAGMA ARCHAION",
    "SYNAGMA META STAVROU;OYRANISMA ARCHAION;THEMA;LEMOI;DYO;TRIA;TESSERA;KRATIMATA",
    "APESO EXO NEO;FTHORA ARCHAION;IMIFTHORA;TROMIKON ARCHAION;KATAVA TROMIKON;PELASTON",
    "PSIFISTON;KONTEVMA;CHOREVMA ARCHAION;RAPISMA;PARAKALESMA ARCHAION;PARAKLITIKI ARCHAION",
    "ICHADIN;NANA;PETASMA;KONTEVMA ALLO;TROMIKON ALLO;STRAGGISMATA;GRONTHISMATA;ISON NEO",
    "OLIGON NEO;OXEIA NEO;PETASTI;KOUFISMA;PETASTOKOUFISMA;KRATIMOKOUFISMA;PELASTON NEO",
    "KENTIMATA NEO ANO;KENTIMA NEO ANO;YPSILI;APOSTROFOS NEO;APOSTROFOI SYNDESMOS NEO;YPORROI",
    "KRATIMOYPORROON;ELAFRON;CHAMILI;MIKRON ISON;VAREIA NEO;PIASMA NEO;PSIFISTON NEO;OMALON",
    "ANTIKENOMA;LYGISMA;PARAKLITIKI NEO;PARAKALESMA NEO;ETERON PARAKALESMA;KYLISMA",
    "ANTIKENOKYLISMA;TROMIKON NEO;EKSTREPTON;SYNAGMA NEO;SYRMA;CHOREVMA NEO;EPEGERMA;SEISMA NEO",
    "XIRON KLASMA;TROMIKOPSIFISTON;PSIFISTOLYGISMA;TROMIKOLYGISMA;TROMIKOPARAKALESMA",
    "PSIFISTOPARAKALESMA;TROMIKOSYNAGMA;PSIFISTOSYNAGMA;GORGOSYNTHETON;ARGOSYNTHETON",
    "ETERON ARGOSYNTHETON;OYRANISMA NEO;THEMATISMOS ESO;THEMATISMOS EXO;THEMA APLOUN",
    "THES KAI APOTHES;KATAVASMA;ENDOFONON;YFEN KATO;YFEN ANO;STAVROS;KLASMA ANO;DIPLI ARCHAION",
    "KRATIMA ARCHAION;KRATIMA ALLO;KRATIMA NEO;APODERMA NEO;APLI;DIPLI;TRIPLI;TETRAPLI;KORONIS",
    "LEIMMA ENOS CHRONOU;LEIMMA DYO CHRONON;LEIMMA TRION CHRONON;LEIMMA TESSARON CHRONON",
    "LEIMMA IMISEOS CHRONOU;GORGON NEO ANO;GORGON PARESTIGMENON ARISTERA",
    "GORGON PARESTIGMENON DEXIA;DIGORGON;DIGORGON PARESTIGMENON ARISTERA KATO",
    "DIGORGON PARESTIGMENON ARISTERA ANO;DIGORGON PARESTIGMENON DEXIA;TRIGORGON;ARGON;IMIDIARGON",
    "DIARGON"]⟩,
  ⟨0x1D09A, "BYZANTINE MUSICAL SYMBOL AGOGI ", [
    "POLI ARGI;ARGOTERI;ARGI;METRIA;MESI;GORGI;GORGOTERI;POLI GORGI"]⟩,
  ⟨0x1D0A2, "BYZANTINE MUSICAL SYMBOL MARTYRIA ", [
    "PROTOS ICHOS;ALLI PROTOS ICHOS;DEYTEROS ICHOS;ALLI DEYTEROS ICHOS;TRITOS ICHOS;TRIFONIAS",
    "TETARTOS ICHOS;TETARTOS LEGETOS ICHOS;LEGETOS ICHOS;PLAGIOS ICHOS"]⟩,
  ⟨0x1D0AC, "BYZANTINE MUSICAL SYMBOL ", [
    "ISAKIA TELOUS ICHIMATOS;APOSTROFOI TELOUS ICHIMATOS;FANEROSIS TETRAFONIAS",
    "FANEROSIS MONOFONIAS;FANEROSIS DIFONIAS;MARTYRIA VARYS ICHOS;MARTYRIA PROTOVARYS ICHOS",
    "MARTYRIA PLAGIOS TETARTOS ICHOS;GORTHMIKON N APLOUN;GORTHMIKON N DIPLOUN",
    "ENARXIS KAI FTHORA VOU;IMIFONON;IMIFTHORON;FTHORA ARCHAION DEYTEROU ICHOU",
    "FTHORA DIATONIKI PA;FTHORA DIATONIKI NANA;FTHORA NAOS ICHOS;FTHORA DIATONIKI DI",
    "FTHORA SKLIRON DIATONON DI;FTHORA DIATONIKI KE;FTHORA DIATONIKI ZO;FTHORA DIATONIKI NI KATO",
    "FTHORA DIATONIKI NI ANO;FTHORA MALAKON CHROMA DIFONIAS;FTHORA MALAKON CHROMA MONOFONIAS",
    "FHTORA SKLIRON CHROMA VASIS;FTHORA SKLIRON CHROMA SYNAFI;FTHORA NENANO;CHROA ZYGOS",
    "CHROA KLITON;CHROA SPATHI;FTHORA I YFESIS TETARTIMORION;FTHORA ENARMONIOS ANTIFONIA",
    "YFESIS TRITIMORION;DIESIS TRITIMORION;DIESIS TETARTIMORION;DIESIS APLI DYO DODEKATA",
    "DIESIS MONOGRAMMOS TESSERA DODEKATA;DIESIS DIGRAMMOS EX DODEKATA",
    "DIESIS TRIGRAMMOS OKTO DODEKATA;YFESIS APLI DYO DODEKATA",
    "YFESIS MONOGRAMMOS TESSERA DODEKATA;YFESIS DIGRAMMOS EX DODEKATA",
    "YFESIS TRIGRAMMOS OKTO DODEKATA;GENIKI DIESIS;GENIKI YFESIS;DIASTOLI APLI MIKRI",
    "DIASTOLI APLI MEGALI;DIASTOLI DIPLI;DIASTOLI THESEOS;SIMANSIS THESEOS",
    "SIMANSIS THESEOS DISIMOU;SIMANSIS THESEOS TRISIMOU;SIMANSIS THESEOS TETRASIMOU",
    "SIMANSIS ARSEOS;SIMANSIS ARSEOS DISIMOU;SIMANSIS ARSEOS TRISIMOU;SIMANSIS ARSEOS TETRASIMOU",
    "DIGRAMMA GG;DIFTOGGOS OU;STIGMA;ARKTIKO PA;ARKTIKO VOU;ARKTIKO GA;ARKTIKO DI;ARKTIKO KE",
    "ARKTIKO ZO;ARKTIKO NI;KENTIMATA NEO MESO;KENTIMA NEO MESO;KENTIMATA NEO KATO",
    "KENTIMA NEO KATO;KLASMA KATO;GORGON NEO KATO"]⟩,
  ⟨0x1D100, "MUSICAL SYMBOL ", [
    "SINGLE BARLINE;DOUBLE BARLINE;FINAL BARLINE;REVERSE FINAL BARLINE;DASHED BARLINE",
    "SHORT BARLINE;LEFT REPEAT SIGN;RIGHT REPEAT SIGN;REPEAT DOTS;DAL SEGNO;DA CAPO;SEGNO;CODA",
    "REPEATED FIGURE-1;REPEATED FIGURE-2;REPEATED FIGURE-3;FERMATA;FERMATA BELOW;BREATH MARK",
    "CAESURA;BRACE;BRACKET;ONE-LINE STAFF;TWO-LINE STAFF;THREE-LINE STAFF;FOUR-LINE STAFF",
    "FIVE-LINE STAFF;SIX-LINE STAFF;SIX-STRING FRETBOARD;FOUR-STRING FRETBOARD;G CLEF",
    "G CLEF OTTAVA ALTA;G CLEF OTTAVA BASSA;C CLEF;F CLEF;F CLEF OTTAVA ALTA;F CLEF OTTAVA BASSA",
    "DRUM CLEF-1;DRUM CLEF-2"]⟩,
  ⟨0x1D129, "MUSICAL SYMBOL ", [
    "MULTIPLE MEASURE REST;DOUBLE SHARP;DOUBLE FLAT;FLAT UP;FLAT DOWN;NATURAL UP;NATURAL DOWN",
    "SHARP UP;SHARP DOWN;QUARTER TONE SHARP;QUARTER TONE FLAT;COMMON TIME;CUT TIME;OTTAVA ALTA",
    "OTTAVA BASSA;QUINDICESIMA ALTA;QUINDICESIMA BASSA;MULTI REST;WHOLE REST;HALF REST",
    "QUARTER REST;EIGHTH REST;SIXTEENTH REST;THIRTY-SECOND REST;SIXTY-FOURTH REST",
    "ONE HUNDRED TWENTY-EIGHTH REST;X NOTEHEAD;PLUS NOTEHEAD;CIRCLE X NOTEHEAD",
    "SQUARE NOTEHEAD WHITE;SQUARE NOTEHEAD BLACK"]⟩,
  ⟨0x1D148, "MUSICAL SYMBOL TRIANGLE NOTEHEAD ", [
    "UP WHITE;UP BLACK;LEFT WHITE;LEFT BLACK;RIGHT WHITE;RIGHT BLACK;DOWN WHITE;DOWN BLACK",
    "UP RIGHT WHITE;UP RIGHT BLACK"]⟩,
  ⟨0x1D152, "MUSICAL SYMBOL ", [
    "MOON NOTEHEAD WHITE;MOON NOTEHEAD BLACK;TRIANGLE-ROUND NOTEHEAD DOWN WHITE",
    "TRIANGLE-ROUND NOTEHEAD DOWN BLACK;PARENTHESIS NOTEHEAD;VOID NOTEHEAD;NOTEHEAD BLACK",
    "NULL NOTEHEAD;CLUSTER NOTEHEAD WHITE;CLUSTER NOTEHEAD BLACK;BREVE;WHOLE NOTE;HALF NOTE",
    "QUARTER NOTE;EIGHTH NOTE;SIXTEENTH NOTE;THIRTY-SECOND NOTE;SIXTY-FOURTH NOTE",
    "ONE HUNDRED TWENTY-EIGHTH NOTE;COMBINING STEM;COMBINING SPRECHGESANG STEM",
    "COMBINING TREMOLO-1;COMBINING TREMOLO-2;COMBINING TREMOLO-3;FINGERED TREMOLO-1",
    "FINGERED TREMOLO-2;FINGERED TREMOLO-3;COMBINING AUGMENTATION DOT;COMBINING FLAG-1",
    "COMBINING FLAG-2;COMBINING FLAG-3;COMBINING FLAG-4;COMBINING FLAG-5;BEGIN BEAM;END BEAM",
    "BEGIN TIE;END TIE;BEGIN SLUR;END SLUR;BEGIN PHRASE;END PHRASE"]⟩,
  ⟨0x1D17B, "MUSICAL SYMBOL COMBINING ", [
    "ACCENT;STACCATO;TENUTO;STACCATISSIMO;MARCATO;MARCATO-STACCATO;ACCENT-STACCATO;LOURE"]⟩,
  ⟨0x1D183, "MUSICAL SYMBOL ARPEGGIATO ", ["UP;DOWN"]⟩,
  ⟨0x1D185, "MUSICAL SYMBOL COMBINING ", ["DOIT;RIP;FLIP;SMEAR;BEND;DOUBLE TONGUE;TRIPLE TONGUE"]⟩,
  ⟨0x1D18C, "MUSICAL SYMBOL ", [
    "RINFORZANDO;SUBITO;Z;PIANO;MEZZO;FORTE;CRESCENDO;DECRESCENDO;GRACE NOTE SLASH",
    "GRACE NOTE NO SLASH;TR;TURN;INVERTED TURN;TURN SLASH;TURN UP"]⟩,
  ⟨0x1D19B, "MUSICAL SYMBOL ORNAMENT ", [
    "STROKE-1;STROKE-2;STROKE-3;STROKE-4;STROKE-5;STROKE-6;STROKE-7;STROKE-8;STROKE-9;STROKE-10",
    "STROKE-11"]⟩,
  ⟨0x1D1A6, "MUSICAL SYMBOL ", [
    "HAUPTSTIMME;NEBENSTIMME;END OF STIMME;DEGREE SLASH;COMBINING DOWN BOW;COMBINING UP BOW",
    "COMBINING HARMONIC;COMBINING SNAP PIZZICATO;PEDAL MARK;PEDAL UP MARK;HALF PEDAL MARK",
    "GLISSANDO UP;GLISSANDO DOWN;WITH FINGERNAILS;DAMP;DAMP ALL;MAXIMA;LONGA;BREVIS",
    "SEMIBREVIS WHITE;SEMIBREVIS BLACK;MINIMA;MINIMA BLACK;SEMIMINIMA WHITE;SEMIMINIMA BLACK",
    "FUSA WHITE;FUSA BLACK;LONGA PERFECTA REST;LONGA IMPERFECTA REST;BREVIS REST;SEMIBREVIS REST",
    "MINIMA REST;SEMIMINIMA REST"]⟩,
  ⟨0x1D1C7, "MUSICAL SYMBOL TEMPUS PERFECTUM CUM PROLATIONE ", [
    "PERFECTA;IMPERFECTA;PERFECTA DIMINUTION-1"]⟩,
  ⟨0x1D1CA, "MUSICAL SYMBOL TEMPUS IMPERFECTUM CUM PROLATIONE ", [
    "PERFECTA;IMPERFECTA;IMPERFECTA DIMINUTION-1;IMPERFECTA DIMINUTION-2;IMPERFECTA DIMINUTION-3"]⟩,
  ⟨0x1D1CF, "MUSICAL SYMBOL ", [
    "CROIX;GREGORIAN C CLEF;GREGORIAN F CLEF;SQUARE B;VIRGA;PODATUS;CLIVIS;SCANDICUS;CLIMACUS",
    "TORCULUS;PORRECTUS;PORRECTUS FLEXUS;SCANDICUS FLEXUS;TORCULUS RESUPINUS;PES SUBPUNCTIS"]⟩,
  ⟨0x1D1DE, "MUSICAL SYMBOL KIEVAN ", [
    "C CLEF;END OF PIECE;FINAL NOTE;RECITATIVE MARK;WHOLE NOTE;HALF NOTE;QUARTER NOTE STEM DOWN",
    "QUARTER NOTE STEM UP;EIGHTH NOTE STEM DOWN;EIGHTH NOTE STEM UP;FLAT SIGN"]⟩,
  ⟨0x1D1E9, "MUSICAL SYMBOL ", ["SORI;KORON"]⟩,
  ⟨0x1D200, "GREEK VOCAL NOTATION ", [
    "SYMBOL-1;SYMBOL-2;SYMBOL-3;SYMBOL-4;SYMBOL-5;SYMBOL-6;SYMBOL-7;SYMBOL-8;SYMBOL-9;SYMBOL-10",
    "SYMBOL-11;SYMBOL-12;SYMBOL-13;SYMBOL-14;SYMBOL-15;SYMBOL-16;SYMBOL-17;SYMBOL-18;SYMBOL-19",
    "SYMBOL-20;SYMBOL-21;SYMBOL-22;SYMBOL-23;SYMBOL-24;SYMBOL-50;SYMBOL-51;SYMBOL-52;SYMBOL-53",
    "SYMBOL-54"]⟩,
  ⟨0x1D21D, "GREEK INSTRUMENTAL NOTATION ", [
    "SYMBOL-1;SYMBOL-2;SYMBOL-4;SYMBOL-5;SYMBOL-7;SYMBOL-8;SYMBOL-11;SYMBOL-12;SYMBOL-13",
    "SYMBOL-14;SYMBOL-17;SYMBOL-18;SYMBOL-19;SYMBOL-23;SYMBOL-24;SYMBOL-25;SYMBOL-26;SYMBOL-27",
    "SYMBOL-29;SYMBOL-30;SYMBOL-32;SYMBOL-36;SYMBOL-37;SYMBOL-38;SYMBOL-39;SYMBOL-40;SYMBOL-42",
    "SYMBOL-43;SYMBOL-45;SYMBOL-47;SYMBOL-48;SYMBOL-49;SYMBOL-50;SYMBOL-51;SYMBOL-52;SYMBOL-53",
    "SYMBOL-54"]⟩,
  ⟨0x1D242, "COMBINING GREEK MUSICAL ", ["TRISEME;TETRASEME;PENTASEME"]⟩,
  ⟨0x1D245, "", ["GREEK MUSICAL LEIMMA"]⟩,
  ⟨0x1D2E0, "MAYAN NUMERAL ", [
    "ZERO;ONE;TWO;THREE;FOUR;FIVE;SIX;SEVEN;EIGHT;NINE;TEN;ELEVEN;TWELVE;THIRTEEN;FOURTEEN",
    "FIFTEEN;SIXTEEN;SEVENTEEN;EIGHTEEN;NINETEEN"]⟩,
  ⟨0x1D300, "", ["MONOGRAM FOR EARTH"]⟩,
  ⟨0x1D301, "DIGRAM FOR ", ["HEAVENLY EARTH;HUMAN EARTH;EARTHLY HEAVEN;EARTHLY HUMAN;EARTH"]⟩,
  ⟨0x1D306, "TETRAGRAM FOR ", [
    "CENTRE;FULL CIRCLE;MIRED;BARRIER;KEEPING SMALL;CONTRARIETY;ASCENT;OPPOSITION;BRANCHING OUT",
    "DEFECTIVENESS OR DISTORTION;DIVERGENCE;YOUTHFULNESS;INCREASE;PENETRATION;REACH;CONTACT",
    "HOLDING BACK;WAITING;FOLLOWING;ADVANCE;RELEASE;RESISTANCE;EASE;JOY;CONTENTION;ENDEAVOUR",
    "DUTIES;CHANGE;DECISIVENESS;BOLD RESOLUTION;PACKING;LEGION;CLOSENESS;KINSHIP;GATHERING",
    "STRENGTH;PURITY;FULLNESS;RESIDENCE;LAW OR MODEL;RESPONSE;GOING TO MEET;ENCOUNTERS;STOVE",
    "GREATNESS;ENLARGEMENT;PATTERN;RITUAL;FLIGHT;VASTNESS OR WASTING;CONSTANCY;MEASURE;ETERNITY",
    "UNITY;DIMINISHMENT;CLOSED MOUTH;GUARDEDNESS;GATHERING IN;MASSING;ACCUMULATION;EMBELLISHMENT",
    "DOUBT;WATCH;SINKING;INNER;DEPARTURE;DARKENING;DIMMING;EXHAUSTION;SEVERANCE;STOPPAGE",
    "HARDNESS;COMPLETION;CLOSURE;FAILURE;AGGRAVATION;COMPLIANCE;ON THE VERGE;DIFFICULTIES",
    "LABOURING;FOSTERING"]⟩,
  ⟨0x1D360, "COUNTING ROD UNIT DIGIT ", ["ONE;TWO;THREE;FOUR;FIVE;SIX;SEVEN;EIGHT;NINE"]⟩,
  ⟨0x1D369, "COUNTING ROD TENS DIGIT ", ["ONE;TWO;THREE;FOUR;FIVE;SIX;SEVEN;EIGHT;NINE"]⟩,
  ⟨0x1D372, "IDEOGRAPHIC TALLY MARK ", ["ONE;TWO;THREE;FOUR;FIVE"]⟩,
  ⟨0x1D377, "TALLY MARK ", ["ONE;FIVE"]⟩]

end BlockSync.Text.CharacterName
