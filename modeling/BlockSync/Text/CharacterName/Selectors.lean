import BlockSync.Text.CharacterName.Block

namespace BlockSync.Text.CharacterName

/-!
# Names: Selectors

Characters from E0000 to 10FFFF:
tags and variation selectors.
-/

/-- The names from E0000 to 10FFFF. -/
def selectors : List Block := [
  ⟨0xE0001, "", ["LANGUAGE TAG"]⟩,
  ⟨0xE0020, "TAG ", [
    "SPACE;EXCLAMATION MARK;QUOTATION MARK;NUMBER SIGN;DOLLAR SIGN;PERCENT SIGN;AMPERSAND",
    "APOSTROPHE;LEFT PARENTHESIS;RIGHT PARENTHESIS;ASTERISK;PLUS SIGN;COMMA;HYPHEN-MINUS",
    "FULL STOP;SOLIDUS"]⟩,
  ⟨0xE0030, "TAG DIGIT ", ["ZERO;ONE;TWO;THREE;FOUR;FIVE;SIX;SEVEN;EIGHT;NINE"]⟩,
  ⟨0xE003A, "TAG ", [
    "COLON;SEMICOLON;LESS-THAN SIGN;EQUALS SIGN;GREATER-THAN SIGN;QUESTION MARK;COMMERCIAL AT"]⟩,
  ⟨0xE0041, "TAG LATIN CAPITAL LETTER ", ["A;B;C;D;E;F;G;H;I;J;K;L;M;N;O;P;Q;R;S;T;U;V;W;X;Y;Z"]⟩,
  ⟨0xE005B, "TAG ", [
    "LEFT SQUARE BRACKET;REVERSE SOLIDUS;RIGHT SQUARE BRACKET;CIRCUMFLEX ACCENT;LOW LINE",
    "GRAVE ACCENT"]⟩,
  ⟨0xE0061, "TAG LATIN SMALL LETTER ", ["A;B;C;D;E;F;G;H;I;J;K;L;M;N;O;P;Q;R;S;T;U;V;W;X;Y;Z"]⟩,
  ⟨0xE007B, "", [
    "TAG LEFT CURLY BRACKET;TAG VERTICAL LINE;TAG RIGHT CURLY BRACKET;TAG TILDE;CANCEL TAG"]⟩,
  ⟨0xE0100, "VARIATION ", [
    "SELECTOR-17;SELECTOR-18;SELECTOR-19;SELECTOR-20;SELECTOR-21;SELECTOR-22;SELECTOR-23",
    "SELECTOR-24;SELECTOR-25;SELECTOR-26;SELECTOR-27;SELECTOR-28;SELECTOR-29;SELECTOR-30",
    "SELECTOR-31;SELECTOR-32;SELECTOR-33;SELECTOR-34;SELECTOR-35;SELECTOR-36;SELECTOR-37",
    "SELECTOR-38;SELECTOR-39;SELECTOR-40;SELECTOR-41;SELECTOR-42;SELECTOR-43;SELECTOR-44",
    "SELECTOR-45;SELECTOR-46;SELECTOR-47;SELECTOR-48;SELECTOR-49;SELECTOR-50;SELECTOR-51",
    "SELECTOR-52;SELECTOR-53;SELECTOR-54;SELECTOR-55;SELECTOR-56;SELECTOR-57;SELECTOR-58",
    "SELECTOR-59;SELECTOR-60;SELECTOR-61;SELECTOR-62;SELECTOR-63;SELECTOR-64;SELECTOR-65",
    "SELECTOR-66;SELECTOR-67;SELECTOR-68;SELECTOR-69;SELECTOR-70;SELECTOR-71;SELECTOR-72",
    "SELECTOR-73;SELECTOR-74;SELECTOR-75;SELECTOR-76;SELECTOR-77;SELECTOR-78;SELECTOR-79",
    "SELECTOR-80;SELECTOR-81;SELECTOR-82;SELECTOR-83;SELECTOR-84;SELECTOR-85;SELECTOR-86",
    "SELECTOR-87;SELECTOR-88;SELECTOR-89;SELECTOR-90;SELECTOR-91;SELECTOR-92;SELECTOR-93",
    "SELECTOR-94;SELECTOR-95;SELECTOR-96;SELECTOR-97;SELECTOR-98;SELECTOR-99;SELECTOR-100",
    "SELECTOR-101;SELECTOR-102;SELECTOR-103;SELECTOR-104;SELECTOR-105;SELECTOR-106;SELECTOR-107",
    "SELECTOR-108;SELECTOR-109;SELECTOR-110;SELECTOR-111;SELECTOR-112;SELECTOR-113;SELECTOR-114",
    "SELECTOR-115;SELECTOR-116;SELECTOR-117;SELECTOR-118;SELECTOR-119;SELECTOR-120;SELECTOR-121",
    "SELECTOR-122;SELECTOR-123;SELECTOR-124;SELECTOR-125;SELECTOR-126;SELECTOR-127;SELECTOR-128",
    "SELECTOR-129;SELECTOR-130;SELECTOR-131;SELECTOR-132;SELECTOR-133;SELECTOR-134;SELECTOR-135",
    "SELECTOR-136;SELECTOR-137;SELECTOR-138;SELECTOR-139;SELECTOR-140;SELECTOR-141;SELECTOR-142",
    "SELECTOR-143;SELECTOR-144;SELECTOR-145;SELECTOR-146;SELECTOR-147;SELECTOR-148;SELECTOR-149",
    "SELECTOR-150;SELECTOR-151;SELECTOR-152;SELECTOR-153;SELECTOR-154;SELECTOR-155;SELECTOR-156",
    "SELECTOR-157;SELECTOR-158;SELECTOR-159;SELECTOR-160;SELECTOR-161;SELECTOR-162;SELECTOR-163",
    "SELECTOR-164;SELECTOR-165;SELECTOR-166;SELECTOR-167;SELECTOR-168;SELECTOR-169;SELECTOR-170",
    "SELECTOR-171;SELECTOR-172;SELECTOR-173;SELECTOR-174;SELECTOR-175;SELECTOR-176;SELECTOR-177",
    "SELECTOR-178;SELECTOR-179;SELECTOR-180;SELECTOR-181;SELECTOR-182;SELECTOR-183;SELECTOR-184",
    "SELECTOR-185;SELECTOR-186;SELECTOR-187;SELECTOR-188;SELECTOR-189;SELECTOR-190;SELECTOR-191",
    "SELECTOR-192;SELECTOR-193;SELECTOR-194;SELECTOR-195;SELECTOR-196;SELECTOR-197;SELECTOR-198",
    "SELECTOR-199;SELECTOR-200;SELECTOR-201;SELECTOR-202;SELECTOR-203;SELECTOR-204;SELECTOR-205",
    "SELECTOR-206;SELECTOR-207;SELECTOR-208;SELECTOR-209;SELECTOR-210;SELECTOR-211;SELECTOR-212",
    "SELECTOR-213;SELECTOR-214;SELECTOR-215;SELECTOR-216;SELECTOR-217;SELECTOR-218;SELECTOR-219",
    "SELECTOR-220;SELECTOR-221;SELECTOR-222;SELECTOR-223;SELECTOR-224;SELECTOR-225;SELECTOR-226",
    "SELECTOR-227;SELECTOR-228;SELECTOR-229;SELECTOR-230;SELECTOR-231;SELECTOR-232;SELECTOR-233",
    "SELECTOR-234;SELECTOR-235;SELECTOR-236;SELECTOR-237;SELECTOR-238;SELECTOR-239;SELECTOR-240",
    "SELECTOR-241;SELECTOR-242;SELECTOR-243;SELECTOR-244;SELECTOR-245;SELECTOR-246;SELECTOR-247",
    "SELECTOR-248;SELECTOR-249;SELECTOR-250;SELECTOR-251;SELECTOR-252;SELECTOR-253;SELECTOR-254",
    "SELECTOR-255;SELECTOR-256"]⟩]

end BlockSync.Text.CharacterName
